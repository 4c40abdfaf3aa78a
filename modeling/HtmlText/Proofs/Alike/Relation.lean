import HtmlText.Markup.Construct.State
import Mathlib.Logic.Equiv.Basic

/-!
# States of construction that differ in the numbers of their nodes

The numbers of nodes only serve to tell nodes apart. Two states are alike if they are the same up to
a renaming of the numbers that they name, and if their drafts are related in some way as long as
nothing is wrong with the source. Which relation of drafts is meant is left open here: it has to be
kept by the few operations that well-formed sources lead to, in which nodes are only ever added
behind the children of an element. All other operations come with a problem, and behind a problem
nothing is said about the drafts any more.

## Main definitions

* `Builder.rename`: a state with other numbers and another draft.
* `Builder.Names`: the numbers that a state names.
* `DraftRelation`: a relation of drafts that can be followed through construction.
* `Builder.Alike`: states that are the same up to the numbers of their nodes.

## Main results

* `Alike.control`: an operation that looks at no number and leaves the draft as it is.
* `Alike.stack`, `Alike.formatting`: operations that drop entries of the two lists.
* `Alike.inScope_eq` and so on: what alike states have in common.
-/

namespace HtmlText

/-! ### Renaming -/

def OpenElement.rename (f : Equiv.Perm Nat) (e : OpenElement) : OpenElement := ⟨f e.id, e.name⟩

def Formatting.rename (f : Equiv.Perm Nat) : Formatting → Formatting
  | .marker => .marker
  | .element id tag => .element (f id) tag

def DraftKind.rename (f : Equiv.Perm Nat) : DraftKind → DraftKind
  | .element name attributes contents => .element name attributes (contents.map f)
  | kind => kind

namespace Builder

/-- The state in which every node has another number, with another draft. -/
def rename (b : Builder) (f : Equiv.Perm Nat) (d : Draft) : Builder :=
  { b with
    draft := d
    stack := b.stack.map (·.rename f)
    formatting := b.formatting.map (·.rename f)
    head := b.head.map f
    form := b.form.map f }

/-- The numbers that a state names outside its draft. -/
inductive Names (b : Builder) : Nat → Prop
  | stack {e : OpenElement} (h : e ∈ b.stack) : Names b e.id
  | formatting {id : Nat} {tag : Tag} (h : .element id tag ∈ b.formatting) : Names b id
  | head {id : Nat} (h : b.head = some id) : Names b id
  | form {id : Nat} (h : b.form = some id) : Names b id

theorem Names.mono {b c : Builder} {id : Nat} (h : c.Names id) (hstack : c.stack ⊆ b.stack)
    (hformatting : c.formatting ⊆ b.formatting) (hhead : c.head = b.head)
    (hform : ∀ id, c.form = some id → b.form = some id) : b.Names id := by
  cases h with
  | stack h => exact .stack (hstack h)
  | formatting h => exact .formatting (hformatting h)
  | head h => exact .head (hhead ▸ h)
  | form h => exact .form (hform _ h)

/-- What a state names as long as it holds neither formatting nor a form. -/
theorem Names.stack_or_head {b : Builder} {id : Nat} (h : b.Names id)
    (hformatting : b.formatting = []) (hform : b.form = none) :
    (∃ e ∈ b.stack, e.id = id) ∨ b.head = some id := by
  cases h with
  | stack he => exact Or.inl ⟨_, he, rfl⟩
  | formatting hentry =>
    rw [hformatting] at hentry
    exact absurd hentry List.not_mem_nil
  | head hid => exact Or.inr hid
  | form hid =>
    rw [hform] at hid
    cases hid

end Builder

/-! ### Alike states -/

/-- How two runs of construction are compared. -/
structure Comparison where
  /-- A relation of two drafts, given the number in the second draft of every node of the first one
  that satisfies a predicate. -/
  draft : Equiv.Perm Nat → (Nat → Prop) → Draft → Draft → Prop
  /-- Numbers in the first draft that keep their counterparts in the second one. -/
  kept : List (Nat × Nat) := []

/-- A relation of two drafts, where `f` gives the number in the second draft of every node of the
first one that satisfies `V`. It is kept when nodes are added behind the children of a node. -/
structure DraftRelation (D : Comparison) : Prop where
  congr : ∀ {f f' : Equiv.Perm Nat} {V : Nat → Prop} {d d' : Draft}, D.draft f V d d' →
    (∀ i, V i → f' i = f i) → D.draft f' V d d'
  contents : ∀ {f : Equiv.Perm Nat} {V : Nat → Prop} {d d' : Draft} {i : Nat},
    D.draft f V d d' → V i → V (d.contents i) ∧ d'.contents (f i) = f (d.contents i)
  addDocument : ∀ {f : Equiv.Perm Nat} {V : Nat → Prop} {d d' : Draft}, D.draft f V d d' →
    (∀ i, V i → i < d.nodes.size ∧ f i < d'.nodes.size) → f d.nodes.size = d'.nodes.size →
    D.draft f (fun i => V i ∨ i = d.nodes.size) (d.add .document).1 (d'.add .document).1
  insert : ∀ {f : Equiv.Perm Nat} {V : Nat → Prop} {d d' : Draft} {p : Nat} (kind : DraftKind),
    D.draft f V d d' → (∀ i, V i → i < d.nodes.size ∧ f i < d'.nodes.size) →
    f d.nodes.size = d'.nodes.size → V p →
    (∀ name attributes c, kind = .element name attributes (some c) → V c) →
    (∀ s, kind ≠ .text s) →
    D.draft f (fun i => V i ∨ i = d.nodes.size) ((d.add kind).1.append p d.nodes.size)
      ((d'.add (kind.rename f)).1.append (f p) d'.nodes.size)
  appendText : ∀ {f : Equiv.Perm Nat} {V : Nat → Prop} {d d' : Draft} {p : Nat},
    D.draft f V d d' → (∀ i, V i → i < d.nodes.size ∧ f i < d'.nodes.size) → V p → ∀ s : String,
    ∃ (f' : Equiv.Perm Nat) (V' : Nat → Prop), (∀ i, V i → V' i ∧ f' i = f i) ∧
      (∀ i, V' i → i < (d.appendText p s).nodes.size ∧
        f' i < (d'.appendText (f p) s).nodes.size) ∧
      D.draft f' V' (d.appendText p s) (d'.appendText (f p) s)

/-- The comparison in which two numbers stay counterparts. -/
def Comparison.keep (D : Comparison) (i i' : Nat) : Comparison :=
  { D with kept := (i, i') :: D.kept }

theorem DraftRelation.keep {D : Comparison} (h : DraftRelation D) (i i' : Nat) :
    DraftRelation (D.keep i i') :=
  ⟨h.congr, h.contents, h.addDocument, h.insert, h.appendText⟩

namespace Builder

variable {D : Comparison} {f : Equiv.Perm Nat}
  {V : Nat → Prop} {b b' c : Builder} {d' : Draft}

/-- The state `b` and the one with the draft `d'` and the numbers given by `f` are alike. -/
structure AlikeBy (D : Comparison) (f : Equiv.Perm Nat)
    (V : Nat → Prop) (b : Builder) (d' : Draft) : Prop where
  zero : V 0 ∧ f 0 = 0
  kept : ∀ p ∈ D.kept, V p.1 ∧ f p.1 = p.2
  lt : ∀ i, V i → i < b.draft.nodes.size ∧ f i < d'.nodes.size
  names : ∀ i, b.Names i → V i
  /-- Something is misplaced only in a source with problems. -/
  fostering : b.fostering = true → b.problems ≠ []
  draft : b.problems = [] → D.draft f V b.draft d'

/-- States that are the same up to the numbers of their nodes, and whose drafts are related as long
as the source has no problem. -/
def Alike (D : Comparison) (b b' : Builder) : Prop :=
  ∃ (f : Equiv.Perm Nat) (V : Nat → Prop) (d' : Draft),
    b' = b.rename f d' ∧ AlikeBy D f V b d'

/-- A state with the same draft, in which everything that it names has a counterpart. -/
theorem AlikeBy.of_names (h : AlikeBy D f V b d') (hdraft : c.draft = b.draft)
    (hfostering : c.fostering = b.fostering) (hproblems : c.problems = [] → b.problems = [])
    (hnames : ∀ i, c.Names i → V i) : AlikeBy D f V c d' where
  zero := h.zero
  kept := h.kept
  lt := hdraft ▸ h.lt
  names := hnames
  fostering := fun hc hnil => h.fostering (hfostering ▸ hc) (hproblems hnil)
  draft := fun hnil => hdraft ▸ h.draft (hproblems hnil)

/-- A state with the same draft that names no further numbers. -/
theorem AlikeBy.mono (h : AlikeBy D f V b d') (hdraft : c.draft = b.draft)
    (hstack : c.stack ⊆ b.stack) (hformatting : c.formatting ⊆ b.formatting)
    (hhead : c.head = b.head) (hform : ∀ id, c.form = some id → b.form = some id)
    (hfostering : c.fostering = b.fostering) (hproblems : c.problems = [] → b.problems = []) :
    AlikeBy D f V c d' :=
  h.of_names hdraft hfostering hproblems fun i hi =>
    h.names i (hi.mono hstack hformatting hhead hform)

/-- Other elements are open. -/
theorem AlikeBy.setStack (h : AlikeBy D f V b d') {stack : List OpenElement}
    (hstack : ∀ e ∈ stack, V e.id) : AlikeBy D f V { b with stack } d' := by
  refine h.of_names rfl rfl id fun i hi => ?_
  cases hi with
  | stack hmem => exact hstack _ hmem
  | formatting hmem => exact h.names _ (.formatting hmem)
  | head hid => exact h.names _ (.head hid)
  | form hid => exact h.names _ (.form hid)

/-- Other formatting is in force. -/
theorem AlikeBy.setFormatting (h : AlikeBy D f V b d') {formatting : List Formatting}
    (hformatting : ∀ id tag, .element id tag ∈ formatting → V id) :
    AlikeBy D f V { b with formatting } d' := by
  refine h.of_names rfl rfl id fun i hi => ?_
  cases hi with
  | stack hmem => exact h.names _ (.stack hmem)
  | formatting hmem => exact hformatting _ _ hmem
  | head hid => exact h.names _ (.head hid)
  | form hid => exact h.names _ (.form hid)

theorem AlikeBy.setHead (h : AlikeBy D f V b d') {id : Nat} (hid : V id) :
    AlikeBy D f V { b with head := some id } d' := by
  refine h.of_names rfl rfl (fun hnil => hnil) fun i hi => ?_
  cases hi with
  | stack hmem => exact h.names _ (.stack hmem)
  | formatting hmem => exact h.names _ (.formatting hmem)
  | head heq =>
    cases heq
    exact hid
  | form hid => exact h.names _ (.form hid)

theorem AlikeBy.setForm (h : AlikeBy D f V b d') {id : Nat} (hid : V id) :
    AlikeBy D f V { b with form := some id } d' := by
  refine h.of_names rfl rfl (fun hnil => hnil) fun i hi => ?_
  cases hi with
  | stack hmem => exact h.names _ (.stack hmem)
  | formatting hmem => exact h.names _ (.formatting hmem)
  | head hid => exact h.names _ (.head hid)
  | form heq =>
    cases heq
    exact hid

/-- A number and its counterpart may be kept. -/
theorem AlikeBy.keep (h : AlikeBy D f V b d') {i : Nat} (hi : V i) :
    Alike (D.keep i (f i)) b (b.rename f d') := by
  refine ⟨f, V, d', rfl, ⟨h.zero, fun p hp => ?_, h.lt, h.names, h.fostering, h.draft⟩⟩
  rcases List.mem_cons.mp hp with rfl | hp
  · exact ⟨hi, rfl⟩
  · exact h.kept p hp

/-- A number that was kept still has its counterpart. -/
theorem Alike.exists_of_keep {i i' : Nat} (h : Alike (D.keep i i') b b') :
    ∃ (f : Equiv.Perm Nat) (V : Nat → Prop) (d' : Draft),
      b' = b.rename f d' ∧ AlikeBy D f V b d' ∧ V i ∧ f i = i' := by
  obtain ⟨f, V, d', heq, h⟩ := h
  have hi := h.kept (i, i') List.mem_cons_self
  exact ⟨f, V, d', heq, ⟨h.zero, fun p hp => h.kept p (List.mem_cons_of_mem _ hp), h.lt, h.names,
    h.fostering, h.draft⟩, hi.1, hi.2⟩

namespace Alike

/-- An operation on other data than numbers and the draft. -/
theorem control (h : Alike D b b') (g : Builder → Builder)
    (hrename : ∀ (b : Builder) (f : Equiv.Perm Nat) (d : Draft),
      g (b.rename f d) = (g b).rename f d)
    (hsame : ∀ b, (g b).draft = b.draft ∧ (g b).stack = b.stack ∧
      (g b).formatting = b.formatting ∧ (g b).head = b.head ∧ (g b).form = b.form ∧
      (g b).fostering = b.fostering)
    (hproblems : ∀ b, (g b).problems = [] → b.problems = []) : Alike D (g b) (g b') := by
  obtain ⟨f, V, d', rfl, h⟩ := h
  obtain ⟨hdraft, hstack, hformatting, hhead, hform, hfostering⟩ := hsame b
  exact ⟨f, V, d', hrename b f d', h.mono hdraft (fun _ he => hstack ▸ he)
    (fun _ hentry => hformatting ▸ hentry) hhead (fun _ hid => hform ▸ hid) hfostering
    (hproblems b)⟩

/-- An operation that drops open elements. -/
theorem stack (h : Alike D b b') (g : List OpenElement → List OpenElement)
    (hrename : ∀ (es : List OpenElement) (f : Equiv.Perm Nat),
      g (es.map (·.rename f)) = (g es).map (·.rename f))
    (hsub : ∀ es, g es ⊆ es) :
    Alike D { b with stack := g b.stack } { b' with stack := g b'.stack } := by
  obtain ⟨f, V, d', rfl, h⟩ := h
  refine ⟨f, V, d', ?_, h.mono rfl (hsub _) (List.Subset.refl _) rfl (fun _ hid => hid) rfl id⟩
  rw [rename, rename, hrename]

/-- An operation that drops formatting. -/
theorem formatting (h : Alike D b b') (g : List Formatting → List Formatting)
    (hrename : ∀ (entries : List Formatting) (f : Equiv.Perm Nat),
      g (entries.map (·.rename f)) = (g entries).map (·.rename f))
    (hsub : ∀ entries, g entries ⊆ entries) :
    Alike D { b with formatting := g b.formatting } { b' with formatting := g b'.formatting } := by
  obtain ⟨f, V, d', rfl, h⟩ := h
  refine ⟨f, V, d', ?_, h.mono rfl (List.Subset.refl _) (hsub _) rfl (fun _ hid => hid) rfl id⟩
  rw [rename, rename, hrename]

/-! ### What alike states have in common -/

theorem problems_eq (h : Alike D b b') : b'.problems = b.problems := by
  obtain ⟨f, V, d', rfl, -⟩ := h; rfl

theorem mode_eq (h : Alike D b b') : b'.mode = b.mode := by
  obtain ⟨f, V, d', rfl, -⟩ := h; rfl

theorem returnMode_eq (h : Alike D b b') : b'.returnMode = b.returnMode := by
  obtain ⟨f, V, d', rfl, -⟩ := h; rfl

theorem templateModes_eq (h : Alike D b b') : b'.templateModes = b.templateModes := by
  obtain ⟨f, V, d', rfl, -⟩ := h; rfl

theorem tableText_eq (h : Alike D b b') : b'.tableText = b.tableText := by
  obtain ⟨f, V, d', rfl, -⟩ := h; rfl

theorem framesetAllowed_eq (h : Alike D b b') : b'.framesetAllowed = b.framesetAllowed := by
  obtain ⟨f, V, d', rfl, -⟩ := h; rfl

theorem dropLineFeed_eq (h : Alike D b b') : b'.dropLineFeed = b.dropLineFeed := by
  obtain ⟨f, V, d', rfl, -⟩ := h; rfl

theorem fragment_eq (h : Alike D b b') : b'.fragment = b.fragment := by
  obtain ⟨f, V, d', rfl, -⟩ := h; rfl

theorem oldLayout_eq (h : Alike D b b') : b'.oldLayout = b.oldLayout := by
  obtain ⟨f, V, d', rfl, -⟩ := h; rfl

theorem textMode_eq (h : Alike D b b') : b'.textMode = b.textMode := by
  obtain ⟨f, V, d', rfl, -⟩ := h; rfl

/-- Alike states have elements with the same names open. -/
theorem names_eq (h : Alike D b b') :
    b'.stack.map OpenElement.name = b.stack.map OpenElement.name := by
  obtain ⟨f, V, d', rfl, -⟩ := h
  rw [rename, List.map_map]
  rfl

theorem length_stack_eq (h : Alike D b b') : b'.stack.length = b.stack.length := by
  simpa using congrArg List.length h.names_eq

theorem isEmpty_stack_eq (h : Alike D b b') : b'.stack.isEmpty = b.stack.isEmpty := by
  obtain ⟨f, V, d', rfl, -⟩ := h
  simp [rename]

theorem current_name_eq (h : Alike D b b') : b'.current.name = b.current.name := by
  obtain ⟨f, V, d', rfl, -⟩ := h
  simp only [current, rename]
  cases b.stack <;> rfl

theorem currentIn_eq (h : Alike D b b') (tags : List String) :
    b'.currentIn tags = b.currentIn tags := by
  rw [currentIn, currentIn, h.current_name_eq]

theorem contextName_eq (h : Alike D b b') : b'.contextName = b.contextName := by
  rw [contextName, contextName, h.fragment_eq, h.length_stack_eq, h.current_name_eq]

theorem inForeign_eq (h : Alike D b b') : b'.inForeign = b.inForeign := by
  rw [inForeign, inForeign, h.isEmpty_stack_eq, h.contextName_eq]

theorem any_name_eq (h : Alike D b b') (test : ElementName → Bool) :
    (b'.stack.any fun e => test e.name) = b.stack.any fun e => test e.name := by
  have hany (es : List OpenElement) :
      (es.any fun e => test e.name) = (es.map OpenElement.name).any test := by
    rw [List.any_map]
    rfl
  rw [hany, hany, h.names_eq]

theorem hasOpen_eq (h : Alike D b b') (tag : String) : b'.hasOpen tag = b.hasOpen tag :=
  h.any_name_eq fun name => name = .html tag

theorem form_isSome_eq (h : Alike D b b') : b'.form.isSome = b.form.isSome := by
  obtain ⟨f, V, d', rfl, -⟩ := h
  simp [rename]

/-- A search by names comes to the same end in renamed elements. -/
theorem findsInScope_rename (bounds : ElementName → Bool) (wanted : ElementName → Bool)
    (f : Equiv.Perm Nat) (es : List OpenElement) :
    findsInScope bounds (fun e => wanted e.name) (es.map (·.rename f)) =
      findsInScope bounds (fun e => wanted e.name) es := by
  induction es with
  | nil => rfl
  | cons e es ih =>
    rw [List.map_cons, findsInScope, findsInScope, ih]
    rfl

theorem findsInScope_eq (h : Alike D b b') (bounds wanted : ElementName → Bool) :
    findsInScope bounds (fun e => wanted e.name) b'.stack =
      findsInScope bounds (fun e => wanted e.name) b.stack := by
  obtain ⟨f, V, d', rfl, -⟩ := h
  exact findsInScope_rename bounds wanted f b.stack

theorem inScope_eq (h : Alike D b b') (bounds : ElementName → Bool) (tag : String) :
    b'.inScope bounds tag = b.inScope bounds tag :=
  h.findsInScope_eq bounds fun name => name = .html tag

end Alike

end Builder

end HtmlText
