import HtmlText.Association
import HtmlText.Text.Casing

/-!
# Rendering rules

Each tag is rendered by a rule. A rule says which shape the content of an element takes, which line
feeds follow it, and whether its children are looked at. Tags without a rule are transparent: only
their children show.

## Main definitions

* `Rule`: the shapes.
* `Rule.trailer`, `Rule.visitsChildren`: what a rule says besides its shape.
* `Rules`: the rules of all tags, with `Rules.builtin`, `Rules.add` and `Rules.forTag`.
* `isBlockTag`: the tags whose last child needs no line feeds of its own.
-/

namespace HtmlText

/-- The shape in which an element is rendered. -/
inductive Rule
  /-- Content in upper case between two lines drawn with a character. -/
  | banner (fill : Char)
  /-- Content in upper case above a line drawn with a character. -/
  | underlined (fill : Char)
  /-- Content in upper case. -/
  | uppercase
  /-- Content as a paragraph of its own. -/
  | block
  /-- Content with every line indented. -/
  | indented
  /-- Content behind a bullet. -/
  | listItem
  /-- Content on a line of its own. -/
  | line
  /-- Content with the target of the link. -/
  | link
  /-- A line feed. -/
  | lineBreak
  /-- A line of dashes. -/
  | horizontalRule
  /-- Nothing. -/
  | skip
  /-- Content alone. -/
  | transparent
deriving Repr, DecidableEq

/-- The line feeds after an element, unless it is the last of its block. -/
def Rule.trailer : Rule → Option String
  | .banner _ | .underlined _ | .uppercase | .block | .indented | .horizontalRule => some "\n\n"
  | .listItem | .line => some "\n"
  | .link | .lineBreak | .skip | .transparent => none

/-- Whether the children of an element are rendered at all. -/
def Rule.visitsChildren : Rule → Bool
  | .skip | .lineBreak | .horizontalRule => false
  | _ => true

/-- The block-level tags. -/
def blockTags : List String :=
  ["h1", "h2", "h3", "h4", "h5", "h6", "h7", "h8", "h9", "div", "p", "blockquote", "pre", "ul",
    "ol", "li", "dl", "dd", "dt"]

/-- The tags whose content is never shown. -/
def hiddenTags : List String := ["style", "head", "title", "meta", "link", "script"]

/-- A block-level tag. -/
def isBlockTag (tag : String) : Bool := blockTags.contains tag

/-- The rules of tags, each under its name in lower case. -/
structure Rules where
  entries : List (String × Rule)
deriving Repr, DecidableEq

namespace Rules

/-- The rules that hold unless others are added. -/
def builtin : Rules where
  entries :=
    [("h1", .banner '*'), ("h2", .underlined '='), ("h3", .underlined '-'), ("h4", .uppercase)] ++
    ["h5", "h6", "h7", "h8", "h9", "p", "div", "ol", "ul", "dl"].map (·, .block) ++
    [("blockquote", .indented), ("pre", .indented), ("li", .listItem), ("dd", .line),
      ("dt", .line), ("a", .link), ("br", .lineBreak), ("hr", .horizontalRule)] ++
    hiddenTags.map (·, .skip)

/-- Render a tag, named in any case, by a rule. -/
def add (rules : Rules) (tag : String) (rule : Rule) : Rules :=
  ⟨putKey rules.entries (lower tag) rule⟩

/-- The rule of a tag, named exactly as in the table, if it has one. -/
def find? (rules : Rules) (tag : String) : Option Rule := rules.entries.lookup tag

/-- The rule of a tag; tags without one are transparent. -/
def forTag (rules : Rules) (tag : String) : Rule := (rules.find? tag).getD .transparent

theorem forTag_eq_transparent_or_mem (rules : Rules) (tag : String) :
    rules.forTag tag = .transparent ∨ (tag, rules.forTag tag) ∈ rules.entries := by
  cases h : rules.find? tag with
  | none => exact Or.inl (by rw [forTag, h, Option.getD_none])
  | some rule =>
    obtain ⟨before, after, hentries, -⟩ := List.lookup_eq_some_iff.mp h
    refine Or.inr ?_
    rw [forTag, h, Option.getD_some, hentries]
    exact List.mem_append_right before List.mem_cons_self

end Rules

end HtmlText
