import HtmlText.Source.Pattern

/-!
# Fragments and documents

A source is read as a complete document when it has a document type or an `html`, `head` or `body`
tag anywhere, and as the content of a `body` otherwise.

## Main definitions

* `Mode`: how a source is read.
* `Mode.ofSource`: the choice.
* `beginsWithDoctype`: the document type comes first.
-/

namespace HtmlText

/-- How a source is read. -/
inductive Mode
  /-- As the content of a `body`. -/
  | fragment
  /-- As a complete document. -/
  | document
deriving Repr, DecidableEq

/-- The name of a mode. -/
def Mode.name : Mode → String
  | .fragment => "Fragment"
  | .document => "Document"

/-- A tag that only complete documents have begins here. -/
def beginsDocumentMarkup (cs : List Char) : Bool :=
  ["<!doctype", "<html", "<head", "<body"].any fun tag => (dropWord? tag cs).isSome

/-- Sources with the markup of a complete document are documents. -/
def Mode.ofSource (s : String) : Mode :=
  if anySuffix beginsDocumentMarkup s.toList then .document else .fragment

/-- The source begins with a document type, up to blanks. -/
def beginsWithDoctype (s : String) : Bool :=
  (dropWord? "<!doctype" (dropBlanks s.toList)).isSome

end HtmlText
