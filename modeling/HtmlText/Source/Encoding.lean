import HtmlText.Source.Pattern
import HtmlText.Text.Lines

/-!
# The encoding declaration of a source

A source is normalized before it is parsed: its line ends become line feeds, and unless it declares
an encoding, a declaration is put in. An XML declaration counts, and so does a `meta` tag with a
`charset`, be it an attribute of its own or a parameter inside another one. The declaration that is
put in stands behind the preamble: leading blanks, a document type, an `html` tag and a `head` tag,
each of them optional.

## Main definitions

* `hasXmlDeclaration`, `dropXmlDeclaration`: the XML declaration at the beginning of a source.
* `declaresEncoding`: an encoding is declared.
* `afterPreamble`: the source behind its preamble.
* `ensureEncoding`: a source that declares its encoding.
* `normalize`: line ends and encoding declaration together.
-/

namespace HtmlText

/-- The declaration that is put into a source that has none. -/
def encodingDeclaration : String := "<meta charset=\"utf-8\">"

/-- Behind the end of an XML declaration: the first closing bracket, if a question mark stands
right before it. -/
def dropXmlEnd? : List Char → Option (List Char)
  | '?' :: '>' :: rest => some rest
  | c :: rest => if c = '>' then none else dropXmlEnd? rest
  | [] => none

/-- Behind the XML declaration of a source, if it begins with one. -/
def dropXmlDeclaration? (cs : List Char) : Option (List Char) :=
  match dropWord? "<?xml" (dropBlanks cs) with
  | some rest => dropXmlEnd? rest
  | none => none

/-- The source begins with an XML declaration. -/
def hasXmlDeclaration (s : String) : Bool := (dropXmlDeclaration? s.toList).isSome

/-- The source without its XML declaration and the blanks before it. -/
def dropXmlDeclaration (s : String) : String :=
  match dropXmlDeclaration? s.toList with
  | some rest => String.ofList rest
  | none => s

/-- The word `charset` and an equals sign, with blanks between them. -/
def beginsCharset (cs : List Char) : Bool :=
  match dropKeyword? "charset".toList cs with
  | some rest => (dropBlanks rest).head? = some '='
  | none => false

/-- A `charset` begins before the next closing bracket, not in the middle of a word; `inWord` says
whether a word character comes just before. -/
def charsetBeforeBracket (inWord : Bool) : List Char → Bool
  | [] => false
  | c :: cs =>
    (!inWord && beginsCharset (c :: cs)) || (c != '>' && charsetBeforeBracket (isWordChar c) cs)

/-- A `meta` tag with a `charset`. -/
def beginsMetaCharset (cs : List Char) : Bool :=
  match dropWord? "<meta" cs with
  | some rest => charsetBeforeBracket true rest
  | none => false

/-- The source declares an encoding. -/
def declaresEncoding (s : String) : Bool :=
  hasXmlDeclaration s || anySuffix beginsMetaCharset s.toList

/-- The source behind an optional tag and the blanks that follow it. -/
def skipTag (name : String) (cs : List Char) : List Char :=
  match dropTag? name cs with
  | some rest => dropBlanks rest
  | none => cs

/-- The source behind its preamble. -/
def afterPreamble (cs : List Char) : List Char :=
  let body := skipTag "html" (skipTag "!doctype" (dropBlanks cs))
  (dropTag? "head" body).getD body

/-- The preamble of a source. -/
def preamble (cs : List Char) : List Char := cs.take (cs.length - (afterPreamble cs).length)

/-- The source with an encoding declaration: unchanged if it has one, otherwise with one put behind
its preamble. -/
def ensureEncoding (s : String) : String :=
  if declaresEncoding s then s
  else String.ofList (preamble s.toList) ++ encodingDeclaration ++
    String.ofList (afterPreamble s.toList)

/-- The normal form in which a source is parsed. -/
def normalize (s : String) : String := ensureEncoding (unifyLineEnds s)

end HtmlText
