import HtmlText.Text.Collapse
import Mathlib.Data.List.Forall2
import Mathlib.Data.List.SplitBy
import Mathlib.Data.List.TakeWhile

/-!
# Collapsed text as a normal form

A text falls into runs of source blanks and runs of other characters, in turn. Collapsing goes from
character to character and remembers no more than whether the last one was a blank. What comes out
is the text with one space for each run of blanks, and the runs of that are the runs of the text,
those of blanks being single spaces now. So two texts collapse to the same text if and only if their
runs are the same ones up to the length and the kind of the blanks. Characters that are no source
blanks, such as the no-break space and the vertical tab, count as any other character in all of
this.

## Main definitions

* `runs`: the runs of a text.
* `IsRun`: a run of blanks, or of other characters.
* `spaceRuns`: a text with one space for each run of blanks.
* `SameButBlanks`: runs that differ at most in the length and the kind of their blanks.

## Main results

* `runs_induction`: induction on the runs of a text.
* `collapse_eq_spaceRuns`: collapsing works run by run.
* `runs_collapseFrom`: the runs of a collapsed text.
* `collapse_append_collapse`: parts of a text may be collapsed beforehand.
* `collapse_eq_iff_spaceRuns_eq`: the normal form.
-/

namespace HtmlText

/-! ### Runs -/

/-- The runs of a text, each as long as it can be: of source blanks, or of other characters. -/
def runs (cs : List Char) : List (List Char) :=
  cs.splitBy fun c d => isMarkupBlank c == isMarkupBlank d

/-- A run of blanks as one space, and any other run as it is. -/
def spaceRun (run : List Char) : List Char := if run.all isMarkupBlank then [' '] else run

/-- A text with one space for each of its runs of source blanks. -/
def spaceRuns (s : String) : String := String.ofList ((runs s.toList).flatMap spaceRun)

/-- Two runs are the same, or both consist of blanks. -/
def SameButBlanks (run run' : List Char) : Prop :=
  run = run' ∨ run.all isMarkupBlank = true ∧ run'.all isMarkupBlank = true

/-- A run of source blanks, or of other characters. -/
structure IsRun (blank : Bool) (run : List Char) : Prop where
  ne_nil : run ≠ []
  kind : ∀ c ∈ run, isMarkupBlank c = blank

/-- A text that does not go on with a run of the given kind. -/
def EndsRun (blank : Bool) (rest : List Char) : Prop := ∀ c ∈ rest.head?, isMarkupBlank c = !blank

variable {blank : Bool} {run rest : List Char}

/-- The runs of a text that begins with a run. -/
theorem runs_append (hrun : IsRun blank run) (hrest : EndsRun blank rest) :
    runs (run ++ rest) = run :: runs rest := by
  have hchain : run.IsChain fun c d => (isMarkupBlank c == isMarkupBlank d) = true := by
    refine (List.pairwise_of_forall_mem_list fun c hc d hd => ?_).isChain
    rw [hrun.kind c hc, hrun.kind d hd, beq_self_eq_true]
  rw [runs, List.splitBy_append, List.splitBy_of_isChain hrun.ne_nil hchain]
  · rfl
  · intro c hc d hd
    rw [hrun.kind c (List.mem_of_mem_getLast? hc), hrest d hd]
    cases blank <;> rfl

/-- A text that is not empty begins with a run. -/
theorem exists_run_append (c : Char) (cs : List Char) :
    ∃ run rest, c :: cs = run ++ rest ∧ IsRun (isMarkupBlank c) run ∧
      EndsRun (isMarkupBlank c) rest := by
  refine ⟨c :: cs.takeWhile (isMarkupBlank · == isMarkupBlank c),
    cs.dropWhile (isMarkupBlank · == isMarkupBlank c), ?_, ⟨List.cons_ne_nil c _, ?_⟩, ?_⟩
  · rw [List.cons_append, List.takeWhile_append_dropWhile]
  · refine List.forall_mem_cons.mpr ⟨rfl, fun d hd => ?_⟩
    exact beq_iff_eq.mp (List.mem_takeWhile_imp (p := (isMarkupBlank · == isMarkupBlank c)) hd)
  · intro d hd
    have hother := List.head?_dropWhile_not (isMarkupBlank · == isMarkupBlank c) cs
    rw [Option.mem_def.mp hd] at hother
    exact Bool.eq_not_of_ne (beq_eq_false_iff_ne.mp hother)

/-- Induction on the runs of a text. -/
theorem runs_induction {P : List Char → Prop} (nil : P [])
    (append : ∀ {blank run rest}, IsRun blank run → EndsRun blank rest → P rest → P (run ++ rest))
    (cs : List Char) : P cs := by
  induction hn : cs.length using Nat.strongRecOn generalizing cs with
  | ind n ih =>
    cases cs with
    | nil => exact nil
    | cons c cs =>
      obtain ⟨run, rest, hsplit, hrun, hrest⟩ := exists_run_append c cs
      rw [hsplit] at hn ⊢
      have hlength : rest.length < n := by
        rw [← hn, List.length_append]
        exact Nat.lt_add_of_pos_left (List.length_pos_iff.mpr hrun.ne_nil)
      exact append hrun hrest (ih _ hlength rest rfl)

theorem exists_isRun_of_mem_runs (cs : List Char) : ∀ run ∈ runs cs, ∃ blank, IsRun blank run := by
  induction cs using runs_induction with
  | nil => exact List.forall_mem_nil _
  | append hrun hrest ih =>
    rw [runs_append hrun hrest]
    exact List.forall_mem_cons.mpr ⟨⟨_, hrun⟩, ih⟩

/-! ### Runs with single spaces -/

theorem IsRun.all_eq (hrun : IsRun blank run) : run.all isMarkupBlank = blank := by
  cases blank with
  | true => exact List.all_eq_true.mpr hrun.kind
  | false =>
    obtain ⟨c, hc⟩ := List.exists_mem_of_ne_nil run hrun.ne_nil
    exact List.all_eq_false.mpr ⟨c, hc, by simp [hrun.kind c hc]⟩

theorem spaceRun_of_blank (hrun : IsRun true run) : spaceRun run = [' '] := by
  rw [spaceRun, hrun.all_eq, if_pos rfl]

theorem spaceRun_of_not_blank (hrun : IsRun false run) : spaceRun run = run := by
  rw [spaceRun, hrun.all_eq, if_neg Bool.false_ne_true]

/-- A run stays one of its kind. -/
theorem isRun_spaceRun (hrun : IsRun blank run) : IsRun blank (spaceRun run) := by
  cases blank with
  | true =>
    rw [spaceRun_of_blank hrun]
    exact ⟨List.cons_ne_nil ' ' [], List.forall_mem_singleton.mpr rfl⟩
  | false =>
    rw [spaceRun_of_not_blank hrun]
    exact hrun

/-- Two runs become the same if and only if they differ at most in their blanks. -/
theorem spaceRun_eq_iff {blank' : Bool} {run' : List Char} (hrun : IsRun blank run)
    (hrun' : IsRun blank' run') : spaceRun run = spaceRun run' ↔ SameButBlanks run run' := by
  constructor
  · intro heq
    obtain rfl : blank = blank' := by
      rw [← (isRun_spaceRun hrun).all_eq, heq, (isRun_spaceRun hrun').all_eq]
    cases blank with
    | true => exact Or.inr ⟨hrun.all_eq, hrun'.all_eq⟩
    | false =>
      rw [spaceRun_of_not_blank hrun, spaceRun_of_not_blank hrun'] at heq
      exact Or.inl heq
  · rintro (rfl | ⟨hblank, hblank'⟩)
    · rfl
    · rw [spaceRun, spaceRun, if_pos hblank, if_pos hblank']

theorem map_spaceRun_eq_iff {rs rs' : List (List Char)} (hrs : ∀ run ∈ rs, ∃ blank, IsRun blank run)
    (hrs' : ∀ run ∈ rs', ∃ blank, IsRun blank run) :
    rs.map spaceRun = rs'.map spaceRun ↔ List.Forall₂ SameButBlanks rs rs' := by
  induction rs generalizing rs' with
  | nil => rw [List.map_nil, List.forall₂_nil_left_iff, eq_comm, List.map_eq_nil_iff]
  | cons run rs ih =>
    cases rs' with
    | nil => simp
    | cons run' rs' =>
      rw [List.forall_mem_cons] at hrs hrs'
      obtain ⟨⟨_, hrun⟩, hrs⟩ := hrs
      obtain ⟨⟨_, hrun'⟩, hrs'⟩ := hrs'
      rw [List.map_cons, List.map_cons, List.cons.injEq, List.forall₂_cons,
        spaceRun_eq_iff hrun hrun', ih hrs hrs']

/-! ### Collapsing run by run -/

/-- In front of another character it makes no difference whether a blank has been written. -/
theorem collapseFrom_of_endsRun (hrest : EndsRun true rest) (inRun : Bool) :
    collapseFrom inRun rest = collapseFrom false rest := by
  cases rest with
  | nil => rfl
  | cons c cs =>
    have hc : ¬isMarkupBlank c = true := by simp [hrest c rfl]
    rw [collapseFrom, collapseFrom, if_neg hc, if_neg hc]

/-- Other characters are left as they are. -/
theorem collapseFrom_append_of_not_blank (hrun : IsRun false run) (rest : List Char)
    (inRun : Bool) : collapseFrom inRun (run ++ rest) = run ++ collapseFrom false rest := by
  obtain ⟨hne, hkind⟩ := hrun
  induction run generalizing inRun with
  | nil => exact absurd rfl hne
  | cons c cs ih =>
    rw [List.forall_mem_cons] at hkind
    rw [List.cons_append, collapseFrom, if_neg (by simp [hkind.1]), List.cons_append]
    by_cases hcs : cs = []
    · rw [hcs, List.nil_append, List.nil_append]
    · rw [ih false hcs hkind.2]

/-- A run at the beginning is collapsed by itself. -/
theorem collapseFrom_append_of_isRun (hrun : IsRun blank run) (hrest : EndsRun blank rest) :
    collapseFrom false (run ++ rest) = spaceRun run ++ collapseFrom false rest := by
  cases blank with
  | true =>
    obtain ⟨c, cs, rfl⟩ := List.exists_cons_of_ne_nil hrun.ne_nil
    have hall := List.forall_mem_cons.mp hrun.kind
    rw [spaceRun_of_blank hrun, List.cons_append, collapseFrom, if_pos hall.1,
      if_neg Bool.false_ne_true, collapseFrom_true_append (List.all_eq_true.mpr hall.2),
      collapseFrom_of_endsRun hrest]
    rfl
  | false => rw [spaceRun_of_not_blank hrun, collapseFrom_append_of_not_blank hrun]

/-- A collapsed text begins with a character of the same kind as the text. -/
theorem endsRun_collapseFrom (hrest : EndsRun blank rest) :
    EndsRun blank (collapseFrom false rest) := by
  cases rest with
  | nil => exact hrest
  | cons c cs =>
    have hc := hrest c rfl
    by_cases hblank : isMarkupBlank c = true
    · rw [collapseFrom, if_pos hblank, if_neg Bool.false_ne_true]
      rintro d ⟨⟩
      rw [← hc, hblank]
      rfl
    · rw [collapseFrom, if_neg hblank]
      rintro d ⟨⟩
      exact hc

theorem collapseFrom_eq_flatMap (cs : List Char) :
    collapseFrom false cs = (runs cs).flatMap spaceRun := by
  induction cs using runs_induction with
  | nil => rfl
  | append hrun hrest ih =>
    rw [collapseFrom_append_of_isRun hrun hrest, runs_append hrun hrest, List.flatMap_cons, ih]

/-- Collapsing writes one space for each run of blanks. -/
theorem collapse_eq_spaceRuns (s : String) : collapse s = spaceRuns s := by
  rw [collapse, spaceRuns, collapseFrom_eq_flatMap]

/-- The runs of a collapsed text. -/
theorem runs_collapseFrom (cs : List Char) :
    runs (collapseFrom false cs) = (runs cs).map spaceRun := by
  induction cs using runs_induction with
  | nil => rfl
  | append hrun hrest ih =>
    rw [collapseFrom_append_of_isRun hrun hrest, runs_append hrun hrest, List.map_cons,
      runs_append (isRun_spaceRun hrun) (endsRun_collapseFrom hrest), ih]

theorem collapse_eq_iff_map_runs_eq (s t : String) :
    collapse s = collapse t ↔ (runs s.toList).map spaceRun = (runs t.toList).map spaceRun := by
  rw [← runs_collapseFrom, ← runs_collapseFrom, ← toList_collapse, ← toList_collapse]
  refine ⟨fun h => by rw [h], fun h => ?_⟩
  have hflat := congrArg List.flatten h
  rw [runs, runs, List.flatten_splitBy, List.flatten_splitBy] at hflat
  exact String.toList_inj.mp hflat

/-! ### Collapsed parts -/

/-- A text may be collapsed before something is put behind it, … -/
theorem collapseFrom_append_left (inRun : Bool) (a b : List Char) :
    collapseFrom inRun (collapseFrom inRun a ++ b) = collapseFrom inRun (a ++ b) := by
  have hspace : isMarkupBlank ' ' = true := rfl
  induction a generalizing inRun with
  | nil => rfl
  | cons c a ih =>
    rw [List.cons_append, collapseFrom, collapseFrom]
    by_cases hc : isMarkupBlank c = true
    · rw [if_pos hc, if_pos hc]
      cases inRun with
      | true => exact ih true
      | false =>
        rw [if_neg Bool.false_ne_true, if_neg Bool.false_ne_true, List.cons_append, collapseFrom,
          if_pos hspace, if_neg Bool.false_ne_true, ih true]
    · rw [if_neg hc, if_neg hc, List.cons_append, collapseFrom, if_neg hc, ih false]

/-- A collapsed text may be collapsed again, and also where a blank has been written before. -/
theorem collapseFrom_collapseFrom (inRun : Bool) (cs : List Char) :
    collapseFrom inRun (collapseFrom false cs) = collapseFrom inRun cs := by
  have hspace : isMarkupBlank ' ' = true := rfl
  have hsame (r : Bool) (cs : List Char) :
      collapseFrom r (collapseFrom r cs) = collapseFrom r cs := by
    have h := collapseFrom_append_left r cs []
    rwa [List.append_nil, List.append_nil] at h
  cases cs with
  | nil => rfl
  | cons c cs =>
    rw [collapseFrom, collapseFrom]
    by_cases hc : isMarkupBlank c = true
    · rw [if_pos hc, if_pos hc, if_neg Bool.false_ne_true, collapseFrom, if_pos hspace, hsame]
    · rw [if_neg hc, if_neg hc, collapseFrom, if_neg hc, hsame]

/-- … and before it is put behind something. -/
theorem collapseFrom_append_right (inRun : Bool) (a b : List Char) :
    collapseFrom inRun (a ++ collapseFrom false b) = collapseFrom inRun (a ++ b) := by
  induction a generalizing inRun with
  | nil => exact collapseFrom_collapseFrom inRun b
  | cons c a ih => rw [List.cons_append, List.cons_append, collapseFrom, collapseFrom, ih, ih]

theorem collapse_collapse (s : String) : collapse (collapse s) = collapse s := by
  apply String.toList_inj.mp
  rw [toList_collapse, toList_collapse, collapseFrom_collapseFrom]

/-- Parts of a text may be collapsed beforehand. -/
theorem collapse_append_collapse (s t : String) :
    collapse (collapse s ++ collapse t) = collapse (s ++ t) := by
  apply String.toList_inj.mp
  rw [toList_collapse, String.toList_append, toList_collapse, toList_collapse,
    collapseFrom_append_left, collapseFrom_append_right, toList_collapse, String.toList_append]

/-! ### Single spaces -/

/-- In a collapsed text no space stands behind a space, nor at the beginning if a blank has been
written before. -/
theorem isChain_collapseFrom (inRun : Bool) (cs : List Char) :
    (collapseFrom inRun cs).IsChain (fun c d => ¬(c = ' ' ∧ d = ' ')) ∧
      (inRun = true → (collapseFrom inRun cs).head? ≠ some ' ') := by
  induction cs generalizing inRun with
  | nil => exact ⟨List.isChain_nil, fun _ => by simp [collapseFrom]⟩
  | cons c cs ih =>
    rw [collapseFrom]
    by_cases hc : isMarkupBlank c = true
    · rw [if_pos hc]
      cases inRun with
      | true => exact ih true
      | false =>
        obtain ⟨hchain, hhead⟩ := ih true
        refine ⟨List.isChain_cons.mpr ⟨fun d hd heq => hhead rfl ?_, hchain⟩, Bool.noConfusion⟩
        rw [← heq.2]
        exact hd
    · have hne : c ≠ ' ' := by
        rintro rfl
        exact hc rfl
      rw [if_neg hc]
      exact ⟨List.isChain_cons.mpr ⟨fun _ _ heq => hne heq.1, (ih false).1⟩,
        fun _ heq => hne (Option.some.inj heq)⟩

theorem not_infix_collapse (s : String) : ¬[' ', ' '] <:+: (collapse s).toList := by
  intro h
  rw [toList_collapse] at h
  have hpair := List.IsChain.infix (isChain_collapseFrom false s.toList).1 h
  exact (List.isChain_cons_cons.mp hpair).1 ⟨rfl, rfl⟩

/-- **The normal form of blanks.** Two texts collapse to the same text if and only if they become
equal when each of their runs of source blanks is replaced by one space, and if and only if they
have the same runs up to the length and the kind of their blanks. A collapsed text has no source
blanks but single spaces, and to collapse it again changes nothing. Parts of a text may be collapsed
before they are put together and collapsed as a whole. -/
theorem collapse_eq_iff_spaceRuns_eq (s t : String) :
    (collapse s = collapse t ↔ spaceRuns s = spaceRuns t) ∧
      (collapse s = collapse t ↔ List.Forall₂ SameButBlanks (runs s.toList) (runs t.toList)) ∧
      collapse (collapse s) = collapse s ∧
      (∀ c ∈ (collapse s).toList, isMarkupBlank c = true → c = ' ') ∧
      ¬[' ', ' '] <:+: (collapse s).toList ∧
      collapse (s ++ t) = collapse (collapse s ++ collapse t) := by
  refine ⟨by rw [collapse_eq_spaceRuns, collapse_eq_spaceRuns], ?_, collapse_collapse s,
    fun c hc hblank => ?_, not_infix_collapse s, (collapse_append_collapse s t).symm⟩
  · rw [collapse_eq_iff_map_runs_eq]
    exact map_spaceRun_eq_iff (exists_isRun_of_mem_runs _) (exists_isRun_of_mem_runs _)
  · by_contra hne
    exact notMem_collapse hblank hne s hc

/-- A run of mixed blanks across the parts, and near blanks that are none. -/
example : collapse ("a \r\n" ++ "\t\x0cb\u00A0\u00A0\x0b\x0b c") = "a b\u00A0\u00A0\x0b\x0b c" := by
  decide

end HtmlText
