import HtmlText.Proofs.CaseMapping
import HtmlText.Proofs.Trailers

/-!
# Nested headings

A heading writes its content in upper case, and may draw lines above and below it. Upper case is
final and maps the parts of a text one by one, so a heading has nothing left to do in what another
heading inside it has rendered: neither in its content, nor in its lines if upper case leaves the
character alone that they are drawn with, nor in the line feeds behind it. Of headings in one
another, each draws its lines and puts in upper case what stands beside the next one, and the
content of the innermost one is put in upper case once.

## Main definitions

* `Rule.IsHeading`: rules that write their content in upper case.
* `Rule.frame`: the lines of a heading around its content.
* `HeadingLevel`, `HeadingLevel.enclose`: what a heading puts around the next one.
* `Tree.Nested`: headings in one another.

## Main results

* `Rule.IsHeading.upper_frame`, `upper_ending`: what a heading adds is in upper case.
* `Tree.Nested.renderAt_eq`: headings in one another, by induction from the innermost one.
* `Tree.upper_renderAt_heading`: the raw rendering of a heading is in upper case.
-/

namespace HtmlText

/-! ### Lines and line feeds -/

theorem upper_repeated {c : Char} (h : upperChar c = [c]) (n : Nat) :
    upper (repeated c n) = repeated c n := by
  refine upper_of_forall fun d hd => ?_
  rw [repeated, String.toList_ofList] at hd
  rw [List.eq_of_mem_replicate hd, h]

theorem upper_ending (rule : Rule) (last : Bool) : upper (rule.ending last) = rule.ending last := by
  have hline : upper "\n" = "\n" := by decide +kernel
  have hblank : upper "\n\n" = "\n\n" := by decide +kernel
  cases last with
  | true => rfl
  | false =>
    cases rule with
    | banner _ | underlined _ | uppercase | block | indented | horizontalRule => exact hblank
    | listItem | line => exact hline
    | link | lineBreak | skip | transparent => rfl

namespace Rule

/-- A rule that writes its content in upper case, with lines, if any, that are drawn with a
character that is in upper case already. -/
inductive IsHeading : Rule → Prop
  | banner {fill : Char} (h : upperChar fill = [fill]) : IsHeading (.banner fill)
  | underlined {fill : Char} (h : upperChar fill = [fill]) : IsHeading (.underlined fill)
  | uppercase : IsHeading .uppercase

/-- The lines of a heading around its content. -/
def frame (rule : Rule) (options : Options) (content : String) : String :=
  match rule with
  | .banner fill =>
    let line := repeated fill options.ruleWidth
    "\n" ++ line ++ "\n" ++ content ++ "\n" ++ line
  | .underlined fill => "\n" ++ content ++ "\n" ++ repeated fill options.ruleWidth
  | .uppercase | .block | .indented | .listItem | .line | .link | .lineBreak | .horizontalRule
  | .skip | .transparent => content

variable {rule : Rule} (h : rule.IsHeading)

include h

theorem IsHeading.visitsChildren : rule.visitsChildren = true := by
  cases h <;> rfl

/-- A heading is its content in upper case between its lines. -/
theorem IsHeading.shape_eq (options : Options) (content href : String) :
    rule.shape options content href = rule.frame options (upper content) := by
  cases h <;> rfl

/-- The lines of a heading are in upper case. -/
theorem IsHeading.upper_frame (options : Options) (content : String) :
    upper (rule.frame options content) = rule.frame options (upper content) := by
  have hfeed : upper "\n" = "\n" := by decide +kernel
  cases h with
  | banner hfill => simp only [frame, upper_append, hfeed, upper_repeated hfill]
  | underlined hfill => simp only [frame, upper_append, hfeed, upper_repeated hfill]
  | uppercase => rfl

end Rule

/-! ### Headings in one another -/

/-- A heading around another one: its rule, whether it is the last element of a block, and what the
siblings of the other one render. -/
structure HeadingLevel where
  rule : Rule
  last : Bool
  before : String
  after : String

/-- A heading around another one that has been rendered. Only what stands beside that one is put in
upper case. -/
def HeadingLevel.enclose (options : Options) (level : HeadingLevel) (inner : String) : String :=
  level.rule.frame options (upper level.before ++ inner ++ upper level.after) ++
    level.rule.ending level.last

/-- A heading around something in upper case is in upper case. -/
theorem HeadingLevel.upper_enclose {level : HeadingLevel} (h : level.rule.IsHeading)
    (options : Options) {inner : String} (hinner : upper inner = inner) :
    upper (level.enclose options inner) = level.enclose options inner := by
  rw [enclose, upper_append, h.upper_frame, upper_ending, upper_append, upper_append, upper_upper,
    upper_upper, hinner]

namespace Tree

/-- The nodes from `y` down to the parent of `x` are headings, one in another, as the levels
say. -/
inductive Nested (t : Tree) (rules : Rules) (options : Options) :
    Nat → Nat → List HeadingLevel → Prop
  | here (x : Nat) : Nested t rules options x x []
  | inside {y z x : Nat} {node : Node} {e : Element} {before after : List Nat}
      {level : HeadingLevel} {levels : List HeadingLevel} (hnode : t.nodes[y]? = some node)
      (hkind : node.kind = .element e) (hrule : rules.forTag e.tag = level.rule)
      (hheading : level.rule.IsHeading) (hlast : t.isLastInBlock y = .ok level.last)
      (hchildren : node.children = before ++ z :: after)
      (hbefore : t.Renders rules options before level.before)
      (hafter : t.Renders rules options after level.after)
      (h : Nested t rules options z x levels) : Nested t rules options y x (level :: levels)

variable {t : Tree} {rules : Rules} {options : Options}

/-- The raw rendering of a heading, from those of its children. -/
theorem renderAt_heading (ht : t.Linked) (options : Options) {id : Nat} {node : Node} {e : Element}
    {last : Bool} (hnode : t.nodes[id]? = some node) (hkind : node.kind = .element e)
    (hheading : (rules.forTag e.tag).IsHeading) (hlast : t.isLastInBlock id = .ok last) :
    ∃ parts,
      List.Forall₂ (fun c part => t.renderAt rules options c = .ok part) node.children parts ∧
      t.renderAt rules options id = .ok
        ((rules.forTag e.tag).frame options (upper (String.join parts)) ++
          (rules.forTag e.tag).ending last) := by
  obtain ⟨parts, hparts, hrender⟩ := renderAt_element rules options ht hnode hkind hlast
  rw [if_pos hheading.visitsChildren, hheading.shape_eq] at hrender
  exact ⟨parts, hparts, hrender⟩

/-- Nodes of a tree have raw renderings. -/
theorem exists_renders (ht : t.Linked) {ids : List Nat}
    (hids : ∀ c ∈ ids, ∃ node, t.nodes[c]? = some node) (rules : Rules) (options : Options) :
    ∃ s, t.Renders rules options ids s := by
  induction ids with
  | nil => exact ⟨_, [], .nil, rfl⟩
  | cons c ids ih =>
    rw [List.forall_mem_cons] at hids
    obtain ⟨⟨node, hnode⟩, hrest⟩ := hids
    obtain ⟨-, parts, hparts, -⟩ := ih hrest
    obtain ⟨last, hlast⟩ := exists_isLastInBlock ht hnode
    cases hkind : node.kind with
    | text s =>
      exact ⟨_, _, .cons (renderAt_text rules options ht hnode hkind) hparts, rfl⟩
    | element e =>
      obtain ⟨_, -, hrender⟩ := renderAt_element rules options ht hnode hkind hlast
      exact ⟨_, _, .cons hrender hparts, rfl⟩

/-- What a node and the siblings before and behind it render, one behind the other. -/
theorem Renders.join_eq {before after : List Nat} {front back inner : String} {z : Nat}
    (hbefore : t.Renders rules options before front) (hz : t.renderAt rules options z = .ok inner)
    (hafter : t.Renders rules options after back) {parts : List String}
    (hparts : List.Forall₂ (fun c part => t.renderAt rules options c = .ok part)
      (before ++ z :: after) parts) : String.join parts = front ++ inner ++ back := by
  obtain ⟨fronts, hfronts, rfl⟩ := hbefore
  obtain ⟨backs, hbacks, rfl⟩ := hafter
  rw [eq_of_forall₂_ok (fun _ _ => rfl) hparts (List.rel_append hfronts (.cons hz hbacks)),
    String.join_append, String.join_cons, String.append_assoc]

/-- A heading with a heading among its children is a level around it. -/
theorem exists_level (ht : t.Linked) (options : Options) {y z : Nat} {node : Node} {e : Element}
    (hnode : t.nodes[y]? = some node) (hkind : node.kind = .element e) (hz : z ∈ node.children)
    (hheading : (rules.forTag e.tag).IsHeading) :
    ∃ level : HeadingLevel, level.rule = rules.forTag e.tag ∧
      ∀ x levels, t.Nested rules options z x levels →
        t.Nested rules options y x (level :: levels) := by
  have hnodes : ∀ c ∈ node.children, ∃ child, t.nodes[c]? = some child := by
    intro c hc
    obtain ⟨-, child, hchild, -⟩ := ht.child hnode hc
    exact ⟨child, hchild⟩
  obtain ⟨before, after, hchildren⟩ := List.append_of_mem hz
  rw [hchildren, List.forall_mem_append, List.forall_mem_cons] at hnodes
  obtain ⟨last, hlast⟩ := exists_isLastInBlock ht hnode
  obtain ⟨front, hfront⟩ := exists_renders ht hnodes.1 rules options
  obtain ⟨back, hback⟩ := exists_renders ht hnodes.2.2 rules options
  exact ⟨⟨_, last, front, back⟩, rfl, fun x levels h =>
    .inside hnode hkind rfl hheading hlast hchildren hfront hback h⟩

/-- Nodes with the rules of headings on the way are headings in one another. -/
theorem Shows.exists_nested (ht : t.Linked) {y x : Nat} {path : List Rule}
    (h : Shows rules t y x path) (hpath : ∀ rule ∈ path, rule.IsHeading) (options : Options) :
    ∃ levels, t.Nested rules options y x levels ∧ levels.map HeadingLevel.rule = path := by
  induction h with
  | child hnode hkind _ hx =>
    rw [List.forall_mem_singleton] at hpath
    obtain ⟨level, hrule, hlevel⟩ := exists_level ht options hnode hkind hx hpath
    exact ⟨[level], hlevel _ [] (.here _), by rw [List.map_singleton, hrule]⟩
  | deeper hnode hkind _ hz _ ih =>
    rw [List.forall_mem_cons] at hpath
    obtain ⟨levels, hnested, hrules⟩ := ih hpath.2
    obtain ⟨level, hrule, hlevel⟩ := exists_level ht options hnode hkind hz hpath.1
    exact ⟨level :: levels, hlevel _ levels hnested, by rw [List.map_cons, hrule, hrules]⟩

/-- Headings around something in upper case leave it as it is, by induction from the innermost one
outwards. What they add is in upper case, so the next one leaves it as it is as well. -/
theorem Nested.renderAt_eq (ht : t.Linked) {y x : Nat} {levels : List HeadingLevel}
    (h : t.Nested rules options y x levels) {s : String}
    (hs : t.renderAt rules options x = .ok s) (hupper : upper s = s) :
    ∃ whole, whole = levels.foldr (HeadingLevel.enclose options) s ∧
      t.renderAt rules options y = .ok whole ∧ upper whole = whole := by
  induction h with
  | here x => exact ⟨s, rfl, hs, hupper⟩
  | @inside y z x node e before after level levels hnode hkind hrule hheading hlast hchildren
      hbefore hafter _ ih =>
    obtain ⟨inner, hfold, hinner, hsettled⟩ := ih hs
    obtain ⟨parts, hparts, hrender⟩ :=
      renderAt_heading ht options hnode hkind (hrule ▸ hheading) hlast
    rw [hchildren] at hparts
    rw [hrule, hbefore.join_eq hinner hafter hparts, upper_append, upper_append,
      hsettled] at hrender
    exact ⟨level.enclose options inner, by rw [List.foldr_cons, hfold], hrender,
      HeadingLevel.upper_enclose hheading options hsettled⟩

/-- **Headings.** The raw rendering of a heading is in upper case, whatever is in it: its lines with
the renderings of its children between them, which are put in upper case one by one. Headings around
it that are in one another do not change it again. They add their own lines, and what their other
children render, in upper case. -/
theorem upper_renderAt_heading (ht : t.Grown) (options : Options) {x : Nat} {node : Node}
    {e : Element} (hnode : t.nodes[x]? = some node) (hkind : node.kind = .element e)
    (hheading : (rules.forTag e.tag).IsHeading) :
    ∃ parts last s,
      List.Forall₂ (fun c part => t.renderAt rules options c = .ok part) node.children parts ∧
      upper (String.join parts) = String.join (parts.map upper) ∧
      t.isLastInBlock x = .ok last ∧
      s = (rules.forTag e.tag).frame options (upper (String.join parts)) ++
        (rules.forTag e.tag).ending last ∧
      t.renderAt rules options x = .ok s ∧ upper s = s ∧
      ∀ y path, Shows rules t y x path → (∀ rule ∈ path, rule.IsHeading) →
        ∃ levels, t.Nested rules options y x levels ∧ levels.map HeadingLevel.rule = path ∧
          t.renderAt rules options y = .ok (levels.foldr (HeadingLevel.enclose options) s) := by
  obtain ⟨last, hlast⟩ := exists_isLastInBlock ht.linked hnode
  obtain ⟨parts, hparts, hrender⟩ :=
    renderAt_heading ht.linked options hnode hkind hheading hlast
  have hupper : upper ((rules.forTag e.tag).frame options (upper (String.join parts)) ++
      (rules.forTag e.tag).ending last) =
        (rules.forTag e.tag).frame options (upper (String.join parts)) ++
          (rules.forTag e.tag).ending last := by
    rw [upper_append, hheading.upper_frame, upper_upper, upper_ending]
  -- What is in upper case already passes through the headings around it unchanged.
  refine ⟨parts, last, _, hparts, upper_join parts, hlast, rfl, hrender, hupper,
    fun y path hshows hpath => ?_⟩
  obtain ⟨levels, hnested, hrules⟩ := hshows.exists_nested ht.linked hpath options
  obtain ⟨whole, rfl, hwhole, -⟩ := hnested.renderAt_eq ht.linked hrender hupper
  exact ⟨levels, hnested, hrules, hwhole⟩

/-! ### A heading between the texts of another one -/

/-- A heading with a text and a link, between two texts of a heading with lines. -/
def nestedHeadings : Tree :=
  (((((((ofRoot "html").grow 0 (.element (.normalized "h1" []))).grow 1 (.text "aß ")).grow 1
    (.element (.normalized "h4" []))).grow 3 (.text "ŉ ")).grow 3
    (.element (.normalized "a" [("href", "x:ﬁ")]))).grow 5 (.text "ᾳ")).grow 1 (.text " é")

theorem grown_nestedHeadings : nestedHeadings.Grown :=
  (((((((Grown.ofRoot "html").growElement (by decide) "h1" []).growText (by decide)
    "aß ").growElement (by decide) "h4" []).growText (by decide) "ŉ ").growElement (by decide) "a"
    [("href", "x:ﬁ")]).growText (by decide) "ᾳ").growText (by decide) " é"

/-- The inner heading shows in the outer one as it is. Both have characters whose upper case is
several characters. -/
theorem upper_renderAt_heading_nestedHeadings :
    nestedHeadings.Grown ∧ (Rules.builtin.forTag "h4").IsHeading ∧ (Rule.banner '*').IsHeading ∧
      Shows .builtin nestedHeadings 1 3 [.banner '*'] ∧
      nestedHeadings.renderAt .builtin { ruleWidth := 3 } 3 = .ok "ʼN ΑΙ (X:FI)" ∧
      upper "ʼN ΑΙ (X:FI)" = "ʼN ΑΙ (X:FI)" ∧
      nestedHeadings.renderAt .builtin { ruleWidth := 3 } 1 =
        .ok "\n***\nASS ʼN ΑΙ (X:FI) É\n***\n\n" ∧
      ∃ levels, nestedHeadings.Nested .builtin { ruleWidth := 3 } 1 3 levels ∧
        nestedHeadings.renderAt .builtin { ruleWidth := 3 } 1 =
          .ok (levels.foldr (HeadingLevel.enclose { ruleWidth := 3 }) "ʼN ΑΙ (X:FI)") := by
  have houter : nestedHeadings.nodes[1]? = some nestedHeadings.nodes[1] := rfl
  have hinner : nestedHeadings.nodes[3]? = some nestedHeadings.nodes[3] := rfl
  have hrule : Rules.builtin.forTag "h4" = .uppercase := by decide +kernel
  have hheading : (Rules.builtin.forTag "h4").IsHeading := hrule ▸ .uppercase
  have hbanner : (Rule.banner '*').IsHeading := .banner (by decide +kernel)
  have hlines : Rules.builtin.forTag "h1" = .banner '*' := by decide +kernel
  have hshows : Shows .builtin nestedHeadings 1 3 [.banner '*'] :=
    hlines ▸ Shows.child houter rfl (by decide) (by decide)
  obtain ⟨-, -, s, -, -, -, -, hrender, hupper, habove⟩ :=
    upper_renderAt_heading grown_nestedHeadings { ruleWidth := 3 } hinner rfl hheading
  obtain rfl : s = "ʼN ΑΙ (X:FI)" := Except.ok.inj (hrender.symm.trans (by decide +kernel))
  obtain ⟨levels, hnested, -, hwhole⟩ := habove 1 _ hshows (by simpa using hbanner)
  exact ⟨grown_nestedHeadings, hheading, hbanner, hshows, hrender, hupper, by decide +kernel,
    levels, hnested, hwhole⟩

end Tree

end HtmlText
