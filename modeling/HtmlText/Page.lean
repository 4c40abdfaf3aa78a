import HtmlText.Diagnostic
import HtmlText.Markup.Parse
import HtmlText.Source.Encoding
import HtmlText.Source.Mode
import HtmlText.Tree

/-!
# Pages

A source is read into a page: the tree of its elements and texts, and what was wrong with it. What
is neither element nor text is left out, and so are the attributes of the root.

## Main definitions

* `Tree.ofDom`: the tree of a parsed document.
* `Page`, `Page.ofSource`: a source that has been read.
-/

namespace HtmlText

mutual

/-- Copy a node and what is below it under a node of a tree. -/
def Dom.copyInto (t : Tree) (parent : Nat) : Dom → Tree
  | .text s => t.grow parent (.text s)
  | .element tag attributes children =>
    copyAllInto (t.grow parent (.element (.normalized tag attributes))) t.size children
  | .comment _ | .doctype _ | .instruction _ _ => t

/-- Copy nodes and what is below them under a node of a tree. -/
def copyAllInto (t : Tree) (parent : Nat) : List Dom → Tree
  | [] => t
  | d :: ds => copyAllInto (d.copyInto t parent) parent ds

end

/-- The tree of a document whose root element is given. -/
def Tree.ofDom : Dom → Tree
  | .element tag _ children => copyAllInto (Tree.ofRoot tag) 0 children
  | _ => Tree.ofRoot ""

/-- A source that has been read. -/
structure Page where
  tree : Tree
  mode : Mode
  diagnostics : List Diagnostic
  /-- The number of tokens that did not belong into the table where they stood. -/
  misplaced : Nat
deriving Repr

namespace Page

/-- Parse a source in a given mode. A document that does not begin with a document type is read as
if it did. -/
def parse (mode : Mode) (s : String) : Parsed :=
  match mode with
  | .fragment => parseFragment s
  | .document => parseDocument (if beginsWithDoctype s then s else "<!DOCTYPE html>" ++ s)

/-- Read a source. Its XML declaration is left out. -/
def ofSource (s : String) : Page :=
  let body := dropXmlDeclaration s
  let mode := Mode.ofSource body
  let parsed := parse mode body
  { tree := .ofDom parsed.root
    mode
    diagnostics := parsed.problems.map fun p => .ofMessage p.message
    misplaced := parsed.misplaced }

/-- The tree of a page without diagnostics. -/
def wellFormed (page : Page) : Except Malformed Tree :=
  if page.diagnostics.isEmpty then .ok page.tree else .error ⟨page.diagnostics⟩

end Page

end HtmlText
