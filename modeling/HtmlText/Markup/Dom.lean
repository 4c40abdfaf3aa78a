import HtmlText.Markup.ElementName
import HtmlText.Markup.Token

/-!
# Documents under construction

While a document is being read its nodes move: misplaced text goes in front of a table, and
misnested formatting is taken apart. The nodes of a draft are numbered in the order in which they
were made. Number 0 is the document itself. When all is read, the draft is turned into an ordered
tree.

What a template contains is kept apart from the document, under a node of its own.

## Main definitions

* `Dom`: an ordered tree of elements, texts, comments and declarations.
* `Draft`: a document under construction.
* `Draft.toDom`: the tree below a node of a draft.
-/

namespace HtmlText

/-- A node of a parsed document with everything below it. -/
inductive Dom
  | text (s : String)
  | comment (s : String)
  | doctype (d : Doctype)
  | instruction (target data : String)
  | element (tag : String) (attributes : List (String × String)) (children : List Dom)
deriving Repr

/-- What a node of a draft holds. -/
inductive DraftKind
  | document
  | text (s : String)
  | comment (s : String)
  | doctype (d : Doctype)
  /-- An element; a template refers to the node that holds its contents. -/
  | element (name : ElementName) (attributes : List (String × String)) (contents : Option Nat)
deriving Repr, DecidableEq

/-- A node of a draft, linked both ways. -/
structure DraftNode where
  kind : DraftKind
  parent : Option Nat := none
  children : List Nat := []
deriving Repr, DecidableEq

/-- A document under construction. -/
structure Draft where
  nodes : Array DraftNode
deriving Repr, DecidableEq

namespace Draft

/-- The empty document. -/
def empty : Draft := ⟨#[{ kind := .document }]⟩

/-- Add a node that has no place yet. -/
def add (d : Draft) (kind : DraftKind) : Draft × Nat := (⟨d.nodes.push { kind }⟩, d.nodes.size)

/-- Add an element that has no place yet, and with a template its contents. -/
def addElement (d : Draft) (name : ElementName) (attributes : List (String × String)) :
    Draft × Nat :=
  if name = .html "template" then
    let (d, contents) := d.add .document
    d.add (.element name attributes (some contents))
  else d.add (.element name attributes none)

/-- The parent of a node. -/
def parent? (d : Draft) (id : Nat) : Option Nat := d.nodes[id]?.bind DraftNode.parent

/-- The children of a node. -/
def children (d : Draft) (id : Nat) : List Nat := (d.nodes[id]?.map DraftNode.children).getD []

/-- Where the content of an element goes: into the contents of a template, or into the element. -/
def contents (d : Draft) (id : Nat) : Nat :=
  match d.nodes[id]? with
  | some { kind := .element _ _ (some contents), .. } => contents
  | _ => id

/-- The text of a node, if it is one. -/
def text? (d : Draft) (id : Nat) : Option String :=
  match d.nodes[id]? with
  | some { kind := .text s, .. } => some s
  | _ => none

/-- Whether a node is an element. -/
def isElement (d : Draft) (id : Nat) : Bool :=
  match d.nodes[id]? with
  | some { kind := .element .., .. } => true
  | _ => false

/-- Replace the children of a node. -/
def setChildren (d : Draft) (id : Nat) (children : List Nat) : Draft :=
  ⟨d.nodes.modify id ({ · with children })⟩

/-- Replace the parent of a node. -/
def setParent (d : Draft) (id : Nat) (parent : Option Nat) : Draft :=
  ⟨d.nodes.modify id ({ · with parent })⟩

/-- Take a node out of its place. -/
def detach (d : Draft) (id : Nat) : Draft :=
  match d.parent? id with
  | none => d
  | some parent =>
    (d.setChildren parent ((d.children parent).filter (· ≠ id))).setParent id none

/-- Put a node behind the children of another one. -/
def append (d : Draft) (parent id : Nat) : Draft :=
  let d := d.detach id
  (d.setChildren parent (d.children parent ++ [id])).setParent id (some parent)

/-- Put a node before a sibling that has a parent. -/
def insertBefore (d : Draft) (parent sibling id : Nat) : Draft :=
  let d := d.detach id
  let children := d.children parent
  (d.setChildren parent
    (children.takeWhile (· ≠ sibling) ++ id :: children.dropWhile (· ≠ sibling))).setParent id
    (some parent)

/-- Make a text node longer. -/
def extendText (d : Draft) (id : Nat) (s : String) : Draft :=
  ⟨d.nodes.modify id fun node =>
    match node.kind with
    | .text t => { node with kind := .text (t ++ s) }
    | _ => node⟩

/-- Put text behind the children of a node, into the last one if it is a text. -/
def appendText (d : Draft) (parent : Nat) (s : String) : Draft :=
  match (d.children parent).getLast? with
  | some last =>
    if (d.text? last).isSome then d.extendText last s
    else
      let (d, id) := d.add (.text s)
      d.append parent id
  | none =>
    let (d, id) := d.add (.text s)
    d.append parent id

/-- Put text before a sibling that has a parent, into the node before it if that is a text. -/
def insertTextBefore (d : Draft) (parent sibling : Nat) (s : String) : Draft :=
  match ((d.children parent).takeWhile (· ≠ sibling)).getLast? with
  | some previous =>
    if (d.text? previous).isSome then d.extendText previous s
    else
      let (d, id) := d.add (.text s)
      d.insertBefore parent sibling id
  | none =>
    let (d, id) := d.add (.text s)
    d.insertBefore parent sibling id

/-- Move all children of a node behind the children of another one. -/
def moveChildren (d : Draft) (source target : Nat) : Draft :=
  (d.children source).foldl (fun d id => d.append target id) d

/-- Give an element those of the attributes that it does not have. -/
def addMissingAttributes (d : Draft) (id : Nat) (attributes : List (String × String)) : Draft :=
  ⟨d.nodes.modify id fun node =>
    match node.kind with
    | .element name own contents =>
      let missing := attributes.filter fun a => (own.lookup a.1).isNone
      { node with kind := .element name (own ++ missing) contents }
    | _ => node⟩

/-! ### The finished document -/

/-- The tree below a node, to a given depth. -/
def toDomWithin (d : Draft) : Nat → Nat → Option Dom
  | 0, _ => none
  | depth + 1, id =>
    match d.nodes[id]? with
    | none => none
    | some node =>
      match node.kind with
      | .document => none
      | .text s => some (.text s)
      | .comment s => some (.comment s)
      | .doctype doctype => some (.doctype doctype)
      | .element name attributes _ =>
        some (.element name.tag attributes (node.children.filterMap (d.toDomWithin depth)))

/-- The tree below a node. No path in it is longer than the draft has nodes. -/
def toDom (d : Draft) (id : Nat) : Option Dom := d.toDomWithin d.nodes.size id

/-- The root element of the document. -/
def rootElement? (d : Draft) : Option Nat := (d.children 0).find? d.isElement

end Draft

end HtmlText
