import HtmlText.Proofs.Alike.MirroredText
import HtmlText.Proofs.Alike.Parsing
import HtmlText.Proofs.Reading

/-!
# The outcome of construction from alike states

Alike states are constructed to the same problems, and to pages with the same text if there is none.

A state with a problem is alike to itself also if no two drafts are related, since the drafts of
alike states have to be related only as long as there is no problem. So construction cannot come to
a state without problems from there: once there is a problem, there will always be one.

## Main definitions

* `Builder.Coherent`: everything that a state names is a node of its draft.
* `Builder.Spoilt`: a state with a problem.

## Main results

* `Spoilt.problems_runAll`: problems stay.
* `Alike.toText_finish`: the pages of alike states.
-/

namespace HtmlText

/-- The comparison that relates no drafts. -/
def Comparison.never : Comparison := { draft := fun _ _ _ _ => False }

theorem DraftRelation.never : DraftRelation .never where
  congr := fun h _ => h
  contents := fun h _ => h.elim
  addDocument := fun h _ _ => h
  insert := fun _ h _ _ _ _ _ => h
  appendText := fun h _ _ _ => h.elim

namespace Builder

variable {D : Comparison} {b b' : Builder}

/-- Everything that a state names is a node of its draft. -/
structure Coherent (b : Builder) : Prop where
  pos : 0 < b.draft.nodes.size
  names : ∀ i, b.Names i → i < b.draft.nodes.size
  fostering : b.fostering = true → b.problems ≠ []

/-- A state without formatting in which there is a node for each open element and for the head. -/
theorem coherent_of_stack {b : Builder} (hpos : 0 < b.draft.nodes.size)
    (hformatting : b.formatting = []) (hform : b.form = none) (hfostering : b.fostering = false)
    (hstack : ∀ e ∈ b.stack, e.id < b.draft.nodes.size)
    (hhead : ∀ id, b.head = some id → id < b.draft.nodes.size) : b.Coherent where
  pos := hpos
  names := fun i hi => by
    obtain ⟨e, he, rfl⟩ | hid := hi.stack_or_head hformatting hform
    · exact hstack e he
    · exact hhead i hid
  fostering := by simp [hfostering]

theorem rename_refl (b : Builder) : b.rename (Equiv.refl Nat) b.draft = b := by
  have hstack : b.stack.map (·.rename (Equiv.refl Nat)) = b.stack := List.map_id _
  have hformatting : b.formatting.map (·.rename (Equiv.refl Nat)) = b.formatting := by
    conv_rhs => rw [← List.map_id b.formatting]
    refine List.map_congr_left fun entry _ => ?_
    cases entry <;> rfl
  have hhead : b.head.map (Equiv.refl Nat) = b.head := Option.map_id_apply
  have hform : b.form.map (Equiv.refl Nat) = b.form := Option.map_id_apply
  rw [rename, hstack, hformatting, hhead, hform]

/-- A coherent state with problems is alike to itself, whatever is asked of the drafts. -/
theorem Coherent.alike_self (h : b.Coherent) (hne : b.problems ≠ []) (hkept : D.kept = []) :
    Alike D b b := by
  refine ⟨.refl Nat, (· < b.draft.nodes.size), b.draft, b.rename_refl.symm,
    ⟨⟨h.pos, rfl⟩, ?_, fun i hi => ⟨hi, hi⟩, h.names, h.fostering, fun hnil => absurd hnil hne⟩⟩
  rw [hkept]
  exact fun p hp => absurd hp List.not_mem_nil

/-- States that are alike although no drafts are related have a problem. -/
theorem Alike.problems_ne_nil (h : Alike .never b b') : b.problems ≠ [] := by
  obtain ⟨f, V, d', -, h⟩ := h
  exact h.draft

theorem Alike.coherent (h : Alike D b b') : b.Coherent := by
  obtain ⟨f, V, d', -, h⟩ := h
  exact ⟨(h.lt 0 h.zero.1).1, fun i hi => (h.lt i (h.names i hi)).1, h.fostering⟩

/-- A state with a problem, which there will be at the end of every source. -/
def Spoilt (b : Builder) : Prop := Alike .never b b

theorem Coherent.spoilt (h : b.Coherent) (hne : b.problems ≠ []) : b.Spoilt :=
  h.alike_self hne rfl

/-- Once there is a problem, there will be one at the end of the source. -/
theorem Spoilt.problems_runAll (h : b.Spoilt) (events : List Event) (s : Source) :
    ((events.foldl feed b).runAll s).problems ≠ [] :=
  ((Alike.foldl_feed .never events h).run .never _ s).problems_ne_nil

theorem Coherent.mono {c : Builder} (h : b.Coherent)
    (hsize : b.draft.nodes.size ≤ c.draft.nodes.size) (hnames : ∀ i, c.Names i → b.Names i)
    (hfostering : c.fostering = b.fostering) (hproblems : c.problems = [] → b.problems = []) :
    c.Coherent where
  pos := Nat.lt_of_lt_of_le h.pos hsize
  names := fun i hi => Nat.lt_of_lt_of_le (h.names i (hnames i hi)) hsize
  fostering := fun hc hnil => h.fostering (hfostering ▸ hc) (hproblems hnil)

/-! ### The outcome -/

theorem Alike.runAll (hD : DraftRelation D) (h : Alike D b b') (s : Source) :
    Alike D (b.runAll s) (b'.runAll s) :=
  h.run hD _ s

/-- The pages of alike states without problems have the same text. -/
theorem Alike.toText_finish {r : Nat} {H : List Nat} (h : Alike { draft := Mirrors r H } b b')
    (hnil : b.problems = []) (options : Options) :
    (Tree.ofDom b'.finish.root).toText .builtin options =
      (Tree.ofDom b.finish.root).toText .builtin options := by
  obtain ⟨f, V, d', rfl, h⟩ := h
  exact (h.draft hnil).toText_eq options h.lt _

end Builder

end HtmlText
