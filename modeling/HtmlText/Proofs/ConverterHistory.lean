import HtmlText.Proofs.AppendHistory
import HtmlText.Proofs.RenderRecursion
import HtmlText.Proofs.StrictConversion

/-!
# Histories of a converter

A converter is set up and used in any order: options are set, rules are added, sources are converted
and trees are rendered. What it answers later depends on its options and on the rule of each tag,
and the rule of a tag is the one that was added last under any casing of the tag. Everything else in
a history leaves no trace: earlier rules, the order of rules for different tags, and conversions,
whether they succeeded or failed.

## Main definitions

* `Converter.Setting`, `Converter.Request`: what can be asked of a converter.
* `Converter.perform`, `Converter.after`, `Converter.answers`: one request, and a history of them.
* `Converter.lastRule?`: the rule that was added last for a tag.
* `Converter.Agrees`: two converters with the same options and the same rule for each tag.
* `Converter.Indistinguishable`: two converters that give the same answers to all requests.
* `Tree.RendersBy`: a node of a tree is rendered by a given rule.

## Main results

* `Converter.find?_rules_after`: the rule of a tag after a history.
* `Converter.Agrees.perform`, `Converter.Agrees.indistinguishable`: converters that agree give the
  same answers and go on to agree.
* `Converter.indistinguishable_after`: what is left of a history.
-/

namespace HtmlText

/-! ### Requests -/

/-- An option with its new value. -/
inductive Converter.Setting
  | ruleWidth (n : Nat)
  | bullet (s : String)
  | tabWidth (n : Nat)
  | strict (b : Bool)
deriving Repr, DecidableEq

/-- Options of which one has a new value. -/
def Options.set (options : Options) : Converter.Setting → Options
  | .ruleWidth ruleWidth => { options with ruleWidth }
  | .bullet bullet => { options with bullet }
  | .tabWidth tabWidth => { options with tabWidth }
  | .strict strict => { options with strict }

namespace Converter

/-- What can be asked of a converter. -/
inductive Request
  | set (setting : Setting)
  | addRule (tag : String) (rule : Rule)
  | convert (html : String)
  | render (t : Tree)
deriving Repr, DecidableEq

/-- The rule that a request adds for a tag, be it under another casing of the tag. -/
def Request.ruleFor? (tag : String) : Request → Option Rule
  | .addRule tag' rule => if lower tag' = lower tag then some rule else none
  | .set _ | .convert _ | .render _ => none

/-- The rule that was added last for a tag, be it under another casing of the tag. -/
def lastRule? (tag : String) (history : List Request) : Option Rule :=
  history.reverse.findSome? (Request.ruleFor? tag)

theorem lastRule?_cons (tag : String) (request : Request) (history : List Request) :
    lastRule? tag (request :: history) = (lastRule? tag history).or (request.ruleFor? tag) := by
  rw [lastRule?, List.reverse_cons, List.findSome?_append, List.findSome?_singleton, lastRule?]

/-- A converter after a request, and what it answers. Only conversions have an answer. -/
def perform (c : Converter) : Request → Converter × Option (Except Malformed String)
  | .set setting => ({ c with options := c.options.set setting }, none)
  | .addRule tag rule => (c.addRule tag rule, none)
  | .convert html => (c, some (c.convert html))
  | .render t => (c, some (.ok (c.render t)))

/-- A converter after a history of requests. -/
def after (c : Converter) (history : List Request) : Converter :=
  history.foldl (fun c request => (c.perform request).1) c

/-- What a converter answers to requests that come one after the other. -/
def answers (c : Converter) : List Request → List (Option (Except Malformed String))
  | [] => []
  | request :: requests => (c.perform request).2 :: (c.perform request).1.answers requests

/-- Two converters that give the same answers to all requests. -/
def Indistinguishable (c c' : Converter) : Prop :=
  ∀ requests, c'.answers requests = c.answers requests

/-- Two converters with the same options and the same rule for each tag. The rules may stand in
different places of their tables. -/
structure Agrees (c c' : Converter) : Prop where
  options : c'.options = c.options
  forTag : ∀ tag, c'.rules.forTag tag = c.rules.forTag tag

end Converter

/-! ### The rule of a tag -/

namespace Rules

variable (rules : Rules) (rule : Rule)

theorem find?_add_self (tag : String) : (rules.add tag rule).find? (lower tag) = some rule :=
  lookup_putKey_self rules.entries (lower tag) rule

theorem find?_add_of_ne {tag name : String} (h : name ≠ lower tag) :
    (rules.add tag rule).find? name = rules.find? name :=
  lookup_putKey_of_ne rules.entries rule h

theorem forTag_congr {rules rules' : Rules} {tag : String}
    (h : rules'.find? tag = rules.find? tag) : rules'.forTag tag = rules.forTag tag := by
  rw [forTag, forTag, h]

end Rules

namespace Converter

variable (c : Converter)

/-- The rule of a tag after a request: the one that the request adds, or else the one before. -/
theorem find?_rules_perform (request : Request) (tag : String) :
    (c.perform request).1.rules.find? (lower tag) =
      (request.ruleFor? tag).or (c.rules.find? (lower tag)) := by
  cases request with
  | addRule tag' rule =>
    change (c.rules.add tag' rule).find? (lower tag) = _
    rw [Request.ruleFor?]
    by_cases h : lower tag' = lower tag
    · rw [if_pos h, ← h, Rules.find?_add_self, Option.some_or]
    · rw [if_neg h, Rules.find?_add_of_ne c.rules rule (Ne.symm h), Option.none_or]
  | set | convert | render => rfl

/-- The rule of a tag after a history: the one that was added last, or else the one before. -/
theorem find?_rules_after (history : List Request) (tag : String) :
    (c.after history).rules.find? (lower tag) =
      (lastRule? tag history).or (c.rules.find? (lower tag)) := by
  induction history generalizing c with
  | nil => rfl
  | cons request history ih =>
    have hafter : c.after (request :: history) = (c.perform request).1.after history := rfl
    rw [hafter, ih, find?_rules_perform, lastRule?_cons, Option.or_assoc]

/-- A name that is no lower case of any tag keeps its rule. -/
theorem find?_rules_after_of_forall_ne {name : String} (h : ∀ tag, lower tag ≠ name)
    (history : List Request) : (c.after history).rules.find? name = c.rules.find? name := by
  induction history generalizing c with
  | nil => rfl
  | cons request history ih =>
    have hafter : c.after (request :: history) = (c.perform request).1.after history := rfl
    rw [hafter, ih]
    cases request with
    | addRule tag rule => exact Rules.find?_add_of_ne c.rules rule (Ne.symm (h tag))
    | set | convert | render => rfl

theorem forTag_rules_after (history : List Request) (tag : String) :
    (c.after history).rules.forTag (lower tag) =
      ((lastRule? tag history).or (c.rules.find? (lower tag))).getD .transparent := by
  rw [Rules.forTag, find?_rules_after]

/-- Histories from the same rules lead to the same rules if the last rules of all tags are the
same. -/
theorem forTag_rules_after_eq (c c' : Converter) (hrules : c'.rules = c.rules)
    {history history' : List Request}
    (hlast : ∀ tag, lastRule? tag history' = lastRule? tag history) (name : String) :
    (c'.after history').rules.forTag name = (c.after history).rules.forTag name := by
  apply Rules.forTag_congr
  by_cases h : ∃ tag, lower tag = name
  · obtain ⟨tag, rfl⟩ := h
    rw [find?_rules_after, find?_rules_after, hlast, hrules]
  · have hne : ∀ tag, lower tag ≠ name := fun tag heq => h ⟨tag, heq⟩
    rw [find?_rules_after_of_forall_ne c' hne, find?_rules_after_of_forall_ne c hne, hrules]

/-! ### Converters that agree -/

namespace Agrees

variable {c c' : Converter}

theorem render_eq (h : c.Agrees c') (t : Tree) : c'.render t = c.render t := by
  rw [render, render, h.options, Tree.toText_congr h.forTag (.refl c.options) t]

theorem convert_eq (h : c.Agrees c') (html : String) : c'.convert html = c.convert html := by
  rw [convert, convert, accept, accept, h.options]
  split_ifs
  · rfl
  · cases (Page.ofSource (normalize html)).wellFormed with
    | ok t => exact congrArg Except.ok (h.render_eq t)
    | error e => rfl
  · exact congrArg Except.ok (h.render_eq _)

/-- Converters that agree give the same answer to a request and go on to agree. -/
theorem perform (h : c.Agrees c') (request : Request) :
    (c'.perform request).2 = (c.perform request).2 ∧
      (c.perform request).1.Agrees (c'.perform request).1 := by
  cases request with
  | set setting => exact ⟨rfl, congrArg (Options.set · setting) h.options, h.forTag⟩
  | addRule tag rule =>
    refine ⟨rfl, h.options, fun name => ?_⟩
    change (c'.rules.add tag rule).forTag name = (c.rules.add tag rule).forTag name
    by_cases hname : name = lower tag
    · rw [hname]
      apply Rules.forTag_congr
      rw [Rules.find?_add_self, Rules.find?_add_self]
    · have hsame := h.forTag name
      rw [Rules.forTag, Rules.forTag] at hsame
      rw [Rules.forTag, Rules.forTag, Rules.find?_add_of_ne _ rule hname,
        Rules.find?_add_of_ne _ rule hname, hsame]
  | convert html => exact ⟨congrArg some (h.convert_eq html), h⟩
  | render t => exact ⟨congrArg (fun s => some (Except.ok s)) (h.render_eq t), h⟩

/-- Converters that agree give the same answers. -/
theorem indistinguishable (h : c.Agrees c') : c.Indistinguishable c' := by
  intro requests
  induction requests generalizing c c' with
  | nil => rfl
  | cons request requests ih =>
    obtain ⟨hanswer, hagrees⟩ := h.perform request
    rw [answers, answers, hanswer, ih hagrees]

end Agrees

end Converter

/-! ### Elements of a tree -/

namespace Tree

/-- A node of a tree is rendered by a given rule, from the renderings of its children. -/
def RendersBy (t : Tree) (rules : Rules) (options : Options) (id : Nat) (rule : Rule) : Prop :=
  ∃ node e last parts, t.nodes[id]? = some node ∧ node.kind = .element e ∧
    t.isLastInBlock id = .ok last ∧
    List.Forall₂ (fun c part => t.renderAt rules options c = .ok part) node.children parts ∧
    t.renderAt rules options id = .ok
      (rule.shape options (if rule.visitsChildren then String.join parts else "")
        ((e.attribute? "href").getD "") ++ rule.ending last)

/-- An element that was appended under any casing of its tag is rendered by the rule of the tag in
lower case, whatever was appended before and after it. -/
theorem rendersBy_appended (rules : Rules) (options : Options) (root tag : String)
    (attributes : List (String × String)) (before later : List Appending) {parent : Nat}
    (h : parent < ((ofRoot root).afterAll before).size) :
    ((ofRoot root).afterAll (before ++ .element parent tag attributes :: later)).RendersBy rules
      options ((ofRoot root).afterAll before).size (rules.forTag (lower tag)) := by
  have hgrown := (Grown.ofRoot root).afterAll (before ++ .element parent tag attributes :: later)
  have happended : (ofRoot root).AppendedBy (before ++ .element parent tag attributes :: later)
      ((ofRoot root).afterAll before).size (.element parent tag attributes) later :=
    appendedBy_iff.mpr ⟨before, rfl, h, rfl⟩
  obtain ⟨node, hnode, hkind, -⟩ := happended.exists_node
  obtain ⟨last, hlast⟩ := exists_isLastInBlock hgrown.linked hnode
  obtain ⟨parts, hparts, hrender⟩ :=
    renderAt_element rules options hgrown.linked hnode hkind hlast
  exact ⟨node, _, last, parts, hnode, hkind, hlast, hparts, hrender⟩

end Tree

/-! ### What is left of a history -/

namespace Converter

/-- **What is left of a history.** Two converters that end with the same options, and for each tag
with the same rule added last under any casing of it, cannot be told apart any more, however they
came there. Conversions change nothing, and rules for different tags may be added in either order.
An element of a tree is rendered by the rule that was added last for its tag, else by the built-in
one, else transparently. -/
theorem indistinguishable_after :
    (∀ (options options' : Options) (history history' : List Request),
        (after { options := options' } history').options = (after { options } history).options →
        (∀ tag, lastRule? tag history' = lastRule? tag history) →
        (after { options } history).Indistinguishable (after { options := options' } history')) ∧
      (∀ (c : Converter) (html : String) (t : Tree),
        c.after [.convert html] = c ∧ c.after [.render t] = c) ∧
      (∀ (c : Converter) (tag tag' : String) (rule rule' : Rule), lower tag' ≠ lower tag →
        ((c.addRule tag rule).addRule tag' rule').Indistinguishable
          ((c.addRule tag' rule').addRule tag rule)) ∧
      ∀ (options : Options) (history : List Request) (root tag : String)
        (attributes : List (String × String)) (before later : List Appending) (parent : Nat),
        parent < ((Tree.ofRoot root).afterAll before).size →
        ((Tree.ofRoot root).afterAll (before ++ .element parent tag attributes :: later)).RendersBy
          (after { options } history).rules (after { options } history).options
          ((Tree.ofRoot root).afterAll before).size
          (((lastRule? tag history).or (Rules.builtin.find? (lower tag))).getD .transparent) := by
  refine ⟨?_, fun c html t => ⟨rfl, rfl⟩, ?_, ?_⟩
  · intro options options' history history' hoptions hlast
    exact Agrees.indistinguishable
      ⟨hoptions, forTag_rules_after_eq { options } { options := options' } rfl hlast⟩
  · intro c tag tag' rule rule' hne
    -- No name is a casing of both tags, so at most one of the two rules is for it.
    have hlast (name : String) : lastRule? name [.addRule tag' rule', .addRule tag rule] =
        lastRule? name [.addRule tag rule, .addRule tag' rule'] := by
      simp only [lastRule?_cons, Request.ruleFor?]
      by_cases h : lower tag = lower name
      · rw [if_pos h, if_neg fun h' => hne (h'.trans h.symm), Option.or_none, Option.or_none]
      · rw [if_neg h, Option.or_none, Option.or_none]
    exact Agrees.indistinguishable ⟨rfl, forTag_rules_after_eq c c rfl hlast⟩
  · intro options history root tag attributes before later parent h
    have hrender := Tree.rendersBy_appended (after { options } history).rules
      (after { options } history).options root tag attributes before later h
    rwa [forTag_rules_after] at hrender

/-- A converter that is told at once how to render sections, and one that is told otherwise before,
and in another casing. -/
theorem indistinguishable_sections :
    (∀ tag,
        lastRule? tag [.addRule "section" .skip, .set (.ruleWidth 5), .addRule "Section" .block] =
          lastRule? tag [.addRule "SECTION" .block, .convert "<p", .set (.ruleWidth 5)]) ∧
      (after {} [.addRule "SECTION" .block, .convert "<p", .set (.ruleWidth 5)]).Indistinguishable
        (after { options := { ruleWidth := 9 } }
          [.addRule "section" .skip, .set (.ruleWidth 5), .addRule "Section" .block]) ∧
      lower "b" ≠ lower "section" ∧
      ((({} : Converter).addRule "section" .block).addRule "b" .uppercase).Indistinguishable
        ((({} : Converter).addRule "b" .uppercase).addRule "section" .block) ∧
      0 < ((Tree.ofRoot "html").afterAll []).size ∧
      ((Tree.ofRoot "html").afterAll [.element 0 "sEctioN" [], .text 1 "A"]).RendersBy
        (after {} [.addRule "SECTION" .block]).rules (after {} [.addRule "SECTION" .block]).options
        1 .block := by
  have hupper : lower "SECTION" = "section" := by decide +kernel
  have hmixed : lower "Section" = "section" := by decide +kernel
  have hlower : lower "section" = "section" := by decide +kernel
  have hlast (tag : String) :
      lastRule? tag [.addRule "section" .skip, .set (.ruleWidth 5), .addRule "Section" .block] =
        lastRule? tag [.addRule "SECTION" .block, .convert "<p", .set (.ruleWidth 5)] := by
    simp only [lastRule?_cons, Request.ruleFor?, hupper, hmixed, hlower]
    split_ifs <;> rfl
  have hoptions : (after { options := { ruleWidth := 9 } }
      [.addRule "section" .skip, .set (.ruleWidth 5), .addRule "Section" .block]).options =
        (after {} [.addRule "SECTION" .block, .convert "<p", .set (.ruleWidth 5)]).options := by
    decide +kernel
  have hne : lower "b" ≠ lower "section" := by decide +kernel
  have hrule : ((lastRule? "sEctioN" [.addRule "SECTION" .block]).or
      (Rules.builtin.find? (lower "sEctioN"))).getD .transparent = .block := by decide +kernel
  have hrender := indistinguishable_after.2.2.2 {} [.addRule "SECTION" .block] "html" "sEctioN" []
    [] [.text 1 "A"] 0 Nat.zero_lt_one
  rw [hrule] at hrender
  exact ⟨hlast, indistinguishable_after.1 _ _ _ _ hoptions hlast, hne,
    indistinguishable_after.2.2.1 _ _ _ _ _ hne, Nat.zero_lt_one, hrender⟩

end Converter

end HtmlText
