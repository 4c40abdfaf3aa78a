import HtmlText.Rule

/-!
# Trees of elements and texts

A tree is an array of nodes that refer to each other by their numbers. It starts with its root
element, which has number 0, and grows by appending a node as the last child of a node that is
already there. So a parent always has a smaller number than its children.

A number that the tree does not have is an error of the caller, reported as `OutOfRange`.

## Main definitions

* `Element`, `Node`, `Tree`: the data.
* `Tree.ofRoot`, `Tree.append`, `Tree.appendElement`, `Tree.appendText`: building a tree.
* `Tree.get`, `Tree.parent`, `Tree.children`, `Tree.followingSiblings`: walking through it.
* `Tree.isLastInBlock`: whether an element is the last one of a block-level parent.
-/

namespace HtmlText

/-- A tag with its attributes, which have distinct names. -/
structure Element where
  tag : String
  attributes : List (String × String)
deriving Repr, DecidableEq

/-- The value of an attribute, named in any case. -/
def Element.attribute? (e : Element) (name : String) : Option String :=
  (e.attributes.lookup name).or (e.attributes.lookup (lower name))

/-- An element whose tag and attribute names are in lower case. An attribute that is named more
than once has its last value. -/
def Element.normalized (tag : String) (attributes : List (String × String)) : Element where
  tag := lower tag
  attributes := ofPairs (attributes.map fun (name, value) => (lower name, value))

/-- What a node holds. -/
inductive NodeKind
  | text (s : String)
  | element (e : Element)
deriving Repr, DecidableEq

/-- A node with the numbers of its parent and of its children in order. -/
structure Node where
  kind : NodeKind
  parent : Option Nat
  children : List Nat
deriving Repr, DecidableEq

namespace Node

/-- The element that a node holds. -/
def element? (node : Node) : Option Element :=
  match node.kind with
  | .text _ => none
  | .element e => some e

/-- A node that holds an element. -/
def isElement (node : Node) : Bool := node.element?.isSome

/-- A node that holds text. -/
def isText (node : Node) : Bool := node.element?.isNone

/-- The tag of an element. -/
def tag? (node : Node) : Option String := node.element?.map Element.tag

end Node

/-- A tree, as the array of its nodes. -/
structure Tree where
  nodes : Array Node
deriving Repr, DecidableEq

/-- A number was used that a tree of the given size does not have. -/
structure OutOfRange where
  size : Nat
  index : Nat
deriving Repr, DecidableEq

/-- The text of the error. -/
def OutOfRange.message (e : OutOfRange) : String :=
  s!"index out of bounds: the len is {e.size} but the index is {e.index}"

namespace Tree

/-- The tree that has nothing but a root with the given tag. -/
def ofRoot (tag : String) : Tree := ⟨#[⟨.element ⟨lower tag, []⟩, none, []⟩]⟩

/-- The number of nodes. -/
def size (t : Tree) : Nat := t.nodes.size

/-- The node with a given number. -/
def get (t : Tree) (id : Nat) : Except OutOfRange Node :=
  match t.nodes[id]? with
  | some node => .ok node
  | none => .error ⟨t.size, id⟩

/-- The tree with one more node, the last child of a node that is there. -/
def grow (t : Tree) (parent : Nat) (kind : NodeKind) : Tree :=
  ⟨(t.nodes.modify parent fun node => { node with children := node.children ++ [t.size] }).push
    ⟨kind, some parent, []⟩⟩

/-- Append a node as the last child of another one. The new node gets the next number. -/
def append (t : Tree) (parent : Nat) (kind : NodeKind) : Except OutOfRange (Tree × Nat) :=
  if parent < t.size then .ok (t.grow parent kind, t.size) else .error ⟨t.size, parent⟩

/-- Append an element, with its names in lower case. -/
def appendElement (t : Tree) (parent : Nat) (tag : String) (attributes : List (String × String)) :
    Except OutOfRange (Tree × Nat) :=
  t.append parent (.element (.normalized tag attributes))

/-- Append a text. -/
def appendText (t : Tree) (parent : Nat) (s : String) : Except OutOfRange (Tree × Nat) :=
  t.append parent (.text s)

/-! ### Walking through a tree -/

/-- Whether a number belongs to an element. -/
def isElement (t : Tree) (id : Nat) : Bool := (t.nodes[id]?).any Node.isElement

/-- The parent of a node. -/
def parent (t : Tree) (id : Nat) : Except OutOfRange (Option Nat) := return (← t.get id).parent

/-- The children of a node. -/
def children (t : Tree) (id : Nat) : Except OutOfRange (List Nat) := return (← t.get id).children

/-- The children of a node that are elements. -/
def elementChildren (t : Tree) (id : Nat) : Except OutOfRange (List Nat) :=
  return (← t.children id).filter t.isElement

/-- The tag of a node, if it is an element. -/
def tag? (t : Tree) (id : Nat) : Except OutOfRange (Option String) := return (← t.get id).tag?

/-- An attribute of a node, if it is an element and has the attribute. -/
def attribute? (t : Tree) (id : Nat) (name : String) : Except OutOfRange (Option String) :=
  return (← t.get id).element?.bind (·.attribute? name)

/-- The siblings behind a node, in order. -/
def followingSiblings (t : Tree) (id : Nat) : Except OutOfRange (List Nat) := do
  match ← t.parent id with
  | none => return []
  | some p => return ((← t.children p).dropWhile (· ≠ id)).drop 1

/-- The sibling right behind a node. -/
def nextSibling (t : Tree) (id : Nat) : Except OutOfRange (Option Nat) :=
  return (← t.followingSiblings id).head?

/-- The next sibling of a node that is an element. -/
def nextElementSibling (t : Tree) (id : Nat) : Except OutOfRange (Option Nat) :=
  return (← t.followingSiblings id).find? t.isElement

/-- Whether no element follows a node under a parent with a block-level tag. -/
def isLastInBlock (t : Tree) (id : Nat) : Except OutOfRange Bool := do
  if (← t.nextElementSibling id).isSome then return false
  match ← t.parent id with
  | none => return false
  | some p => return ((← t.tag? p).any isBlockTag)

end Tree

end HtmlText
