import HtmlText.Markup.Problem

/-!
# Tokens of a source

A source is read as a sequence of tokens with problems in between. A run of text may come as several
tokens, and where such a run is out of place, each of its tokens is a problem of its own.

## Main definitions

* `Tag`, `Doctype`, `Token`: what a source consists of.
* `Event`: a token or a problem.
* `Scan`: the outcome of reading one construct.
-/

namespace HtmlText

/-- A start or end tag. Names are in lower case, and the attributes have distinct names. -/
structure Tag where
  name : String
  attributes : List (String × String) := []
  selfClosing : Bool := false
deriving Repr, DecidableEq

/-- The value of an attribute of a tag. -/
def Tag.attribute? (t : Tag) (name : String) : Option String := t.attributes.lookup name

/-- A document type. -/
structure Doctype where
  name : Option String := none
  publicId : Option String := none
  systemId : Option String := none
  /-- It is incomplete, so that the document has to be laid out the old way. -/
  incomplete : Bool := false
deriving Repr, DecidableEq

/-- A piece of a source. -/
inductive Token
  | text (cs : List Char)
  /-- The character with number 0. -/
  | null
  | startTag (t : Tag)
  | endTag (t : Tag)
  | comment (s : String)
  | doctype (d : Doctype)
  /-- The end of the source. -/
  | sourceEnd
deriving Repr, DecidableEq

/-- What comes up while a source is read. -/
inductive Event
  | problem (p : Problem)
  | token (t : Token)
deriving Repr, DecidableEq

namespace Event

/-- A token of text. -/
def text (cs : List Char) : Event := .token (.text cs)

/-- Put a character in front of a sequence of events, in one token with text that follows. -/
def consChar (c : Char) : List Event → List Event
  | .token (.text cs) :: events => .token (.text (c :: cs)) :: events
  | events => text [c] :: events

end Event

/-- The outcome of reading one construct: the problems met on the way, what was read, and the rest
of the source. -/
structure Scan (α : Type) where
  problems : List Problem
  value : α
  rest : List Char
deriving Repr, DecidableEq

namespace Scan

/-- Characters that were read before the others, with their problems. -/
def after (problems : List Problem) (cs : List Char) (scan : Scan (List Char)) :
    Scan (List Char) :=
  { scan with problems := problems ++ scan.problems, value := cs ++ scan.value }

end Scan

/-- A line end of the source, which is a carriage return where the source had one, as it is written
into a text. -/
def sourceChar (c : Char) : Char := if c = '\r' then '\n' else c

end HtmlText
