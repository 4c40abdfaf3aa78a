import HtmlText.Tree

/-!
# The content of a tree

What a tree says, without its numbering: texts, and elements with their contents in order. The
children of a text node, which a tree may have, are no content.

Since children have larger numbers than their parent, the contents of all nodes can be read off
from the last node to the first.

## Main definitions

* `Content`: an ordered tree of texts and elements.
* `Tree.contents`: the contents of all nodes, by their numbers.
* `Tree.content`: the content of one node.
-/

namespace HtmlText

/-- A text, or an element with its contents in order. -/
inductive Content
  | text (s : String)
  | element (e : Element) (children : List Content)
deriving Repr

namespace Content

/-- A content that is an element. -/
def isElement : Content → Bool
  | .text _ => false
  | .element .. => true

end Content

/-- The content of a node, given the contents of the nodes with larger numbers. -/
def Node.content (node : Node) (contentOf : Nat → Option Content) : Content :=
  match node.kind with
  | .text s => .text s
  | .element e => .element e (node.children.filterMap contentOf)

/-- The contents of the nodes from number `first` on. -/
def contentsFrom (first : Nat) : List Node → List Content
  | [] => []
  | node :: nodes =>
    let later := contentsFrom (first + 1) nodes
    node.content (fun id => if first < id then later[id - first - 1]? else none) :: later

namespace Tree

/-- The contents of all nodes, by their numbers. -/
def contents (t : Tree) : List Content := contentsFrom 0 t.nodes.toList

/-- The content of a node. -/
def content (t : Tree) (id : Nat) : Except OutOfRange Content :=
  match t.contents[id]? with
  | some content => .ok content
  | none => .error ⟨t.size, id⟩

end Tree

end HtmlText
