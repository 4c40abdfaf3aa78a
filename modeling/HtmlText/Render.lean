import HtmlText.Link
import HtmlText.Text.Collapse
import HtmlText.Text.Tidy
import HtmlText.Tree.Content

/-!
# Rendering a tree

Every element is rendered by the rule of its tag, from the renderings of its children. The line
feeds that a rule adds behind an element are left out behind the last element of a block-level
parent, whose own line feeds follow anyway. The whitespace pass then turns the raw rendering into
the text that is shown.

## Main definitions

* `Options`: lengths, bullet and strictness.
* `Rule.shape`: an element from the rendering of its children.
* `Content.render`: the raw rendering of a content.
* `Tree.renderAt`, `Tree.renderRoot`: the raw rendering of a node of a tree.
* `Tree.toText`: the text of a tree.
* `Content.lookups`: the tags whose rules are asked for.
-/

namespace HtmlText

/-- How texts are written, and which sources are accepted. -/
structure Options where
  /-- The length of the lines drawn for headings and separators. -/
  ruleWidth : Nat := 79
  /-- What stands in front of a list item. -/
  bullet : String := " * "
  /-- The number of spaces for each level of indentation. -/
  tabWidth : Nat := 4
  /-- Refuse sources that had to be repaired. -/
  strict : Bool := true
deriving Repr, DecidableEq

/-- A text of `n` equal characters. -/
def repeated (c : Char) (n : Nat) : String := String.ofList (List.replicate n c)

/-- The shape of an element with the given rule, content and link target. -/
def Rule.shape (rule : Rule) (options : Options) (content href : String) : String :=
  match rule with
  | .banner fill =>
    let line := repeated fill options.ruleWidth
    "\n" ++ line ++ "\n" ++ upper content ++ "\n" ++ line
  | .underlined fill => "\n" ++ upper content ++ "\n" ++ repeated fill options.ruleWidth
  | .uppercase => upper content
  | .block | .line | .transparent => content
  | .indented => indent content
  | .listItem => options.bullet ++ content
  | .link => renderLink content href
  | .lineBreak => "\n"
  | .horizontalRule => "\n" ++ repeated '-' options.ruleWidth
  | .skip => ""

/-- The line feeds behind an element; the last element of a block has none. -/
def Rule.ending (rule : Rule) (last : Bool) : String :=
  if last then "" else rule.trailer.getD ""

mutual

/-- The raw rendering of a content; `last` says that it is the last element of a block. -/
def Content.render (rules : Rules) (options : Options) (last : Bool) : Content → String
  | .text s => collapse s
  | .element e children =>
    let rule := rules.forTag e.tag
    let content :=
      if rule.visitsChildren then renderAll rules options (isBlockTag e.tag) children else ""
    rule.shape options content ((e.attribute? "href").getD "") ++ rule.ending last

/-- The raw renderings of siblings, one behind the other; `inBlock` says that their parent is
block-level. -/
def renderAll (rules : Rules) (options : Options) (inBlock : Bool) : List Content → String
  | [] => ""
  | content :: siblings =>
    content.render rules options (inBlock && !siblings.any Content.isElement) ++
      renderAll rules options inBlock siblings

end

mutual

/-- The tags whose rules are asked for when a content is rendered, in this order. -/
def Content.lookups (rules : Rules) : Content → List String
  | .text _ => []
  | .element e children =>
    e.tag :: if (rules.forTag e.tag).visitsChildren then lookupsAll rules children else []

/-- The tags whose rules are asked for when siblings are rendered. -/
def lookupsAll (rules : Rules) : List Content → List String
  | [] => []
  | content :: siblings => content.lookups rules ++ lookupsAll rules siblings

end

namespace Tree

/-- The raw rendering of a node. -/
def renderAt (t : Tree) (rules : Rules) (options : Options) (id : Nat) :
    Except OutOfRange String := do
  let content ← t.content id
  return content.render rules options (← t.isLastInBlock id)

/-- The raw rendering of a tree. -/
def renderRoot (t : Tree) (rules : Rules) (options : Options) : String :=
  match t.contents with
  | [] => ""
  | content :: _ => content.render rules options false

/-- The text of a tree. -/
def toText (t : Tree) (rules : Rules) (options : Options) : String :=
  tidy options.tabWidth (t.renderRoot rules options)

end Tree

end HtmlText
