import HtmlText.Markup.CommentText
import HtmlText.Markup.DoctypeText
import HtmlText.Markup.RawText

/-!
# Reading a source token by token

Most of a source is read as text with markup in it. The parser tells the reader when an element with
raw text begins, and where sections of character data may occur.

A run of text ends at a line feed, an ampersand, an opening bracket or a null character. It also
ends where characters that were looked at before come to their end, which the reader keeps count of.

## Main definitions

* `TextMode`: how the text that follows is read.
* `Source`: what is left of a source.
* `Source.next`: the next events.
-/

namespace HtmlText

/-- How the text that follows is read. -/
inductive TextMode
  /-- As text with markup. -/
  | markup
  /-- As the text of an element with the given name, with character references. -/
  | escapable (name : String)
  /-- As the text of an element with the given name, without character references. -/
  | raw (name : String)
  /-- As the text of a script. -/
  | script
  /-- As text up to the end of the source. -/
  | plain
deriving Repr, DecidableEq

/-- What is left of a source; the first `apart` characters were looked at before. -/
structure Source where
  rest : List Char
  apart : Nat := 0
deriving Repr, DecidableEq

namespace Source

/-- Every pair of carriage return and line feed as one carriage return. -/
def joinLineEnds : List Char → List Char
  | [] => []
  | '\r' :: '\n' :: cs => '\r' :: joinLineEnds cs
  | c :: cs => c :: joinLineEnds cs

/-- The characters without a byte order mark at their beginning. -/
def dropMark : List Char → List Char
  | [] => []
  | c :: cs => if c = '\uFEFF' then cs else c :: cs

/-- The source with every carriage return and line feed pair as one carriage return, and without a
byte order mark at its beginning. -/
def ofString (s : String) : Source := ⟨joinLineEnds (dropMark s.toList), 0⟩

/-! ### Markup -/

/-- A section of character data up to its end. A null character is a token of its own. -/
def readCharacterData : List Char → List Event × List Char
  | [] => ([.problem .unexpectedEnd], [])
  | ']' :: ']' :: '>' :: rest => ([], rest)
  | c :: cs =>
    let (events, rest) := readCharacterData cs
    if c = '\x00' then (.token .null :: events, rest)
    else (Event.consChar (sourceChar c) events, rest)

/-- The events of a declaration behind its opening bracket and exclamation mark. -/
def readDeclaration (characterData : Bool) (cs : List Char) : List Event × List Char :=
  match cs with
  | '-' :: '-' :: rest =>
    let scan := readComment .opening rest
    (commentEvents scan, scan.rest)
  | _ =>
    match dropAsciiWord? "doctype".toList cs with
    | some rest =>
      let scan := readDoctype rest
      (doctypeEvents scan, scan.rest)
    | none =>
      if characterData && "[CDATA[".toList.isPrefixOf cs then readCharacterData (cs.drop 7)
      else
        let scan := readBogusComment cs
        (.problem .badCharacter :: commentEvents scan, scan.rest)

/-- The events of an end tag behind its opening bracket and slash. -/
def readEndTag (cs : List Char) : List Event × List Char :=
  match cs with
  | [] => ([.problem .unexpectedEnd, .text ['<'], .text ['/']], [])
  | c :: rest =>
    if c.isAlpha then
      let scan := readTag cs
      (endTagEvents scan, scan.rest)
    else if c = '>' then ([.problem .badCharacter], rest)
    else
      let scan := readBogusComment cs
      (.problem .badCharacter :: commentEvents scan, scan.rest)

/-- The events of markup behind its opening bracket. A bracket that opens nothing is text. -/
def readMarkup (characterData : Bool) (cs : List Char) : List Event × Source :=
  match cs with
  | [] => ([.problem .unexpectedEnd, .text ['<']], ⟨[], 0⟩)
  | c :: rest =>
    if c = '!' then
      let (events, rest) := readDeclaration characterData rest
      (events, ⟨rest, 0⟩)
    else if c = '/' then
      let (events, rest) := readEndTag rest
      (events, ⟨rest, 0⟩)
    else if c = '?' then
      let scan := readBogusComment cs
      (.problem .badCharacter :: commentEvents scan, ⟨scan.rest, 0⟩)
    else if c.isAlpha then
      let scan := readTag cs
      (startTagEvents scan, ⟨scan.rest, 0⟩)
    -- This character has been looked at, so the text that it begins is cut behind it.
    else ([.problem .badCharacter, .text ['<']], ⟨cs, 1⟩)

/-! ### Text -/

/-- A character that ends a run of text. -/
def endsRun (plain : Bool) (c : Char) : Bool :=
  c = '\x00' || c = '\n' || c = '\r' || (!plain && (c = '<' || c = '&'))

/-- A run of text that is not empty, cut where the characters looked at before end. -/
def readRun (plain : Bool) (s : Source) : List Event × Source :=
  let run := s.rest.takeWhile (!endsRun plain ·)
  let run := if s.apart = 0 then run else run.take s.apart
  ([.text run], ⟨s.rest.drop run.length, s.apart - run.length⟩)

/-- The next events of text with markup. -/
def nextMarkup (characterData : Bool) (s : Source) : List Event × Source :=
  match s.rest with
  | [] => ([], s)
  | c :: cs =>
    if c = '\n' then ([.text ['\n']], ⟨cs, s.apart - 1⟩)
    else if c = '\r' then ([.text ['\n']], ⟨cs, 1⟩)
    else if c = '\x00' then ([.problem .badCharacter, .token .null], ⟨cs, s.apart - 1⟩)
    else if c = '&' then
      let reference := Reference.read false cs
      (reference.problems.map Event.problem ++ reference.expansion.map fun c => .text [c],
        ⟨cs.drop reference.length, reference.handedBack⟩)
    else if c = '<' then readMarkup characterData cs
    else readRun false s

/-- The next events of text up to the end of the source. -/
def nextPlain (s : Source) : List Event × Source :=
  match s.rest with
  | [] => ([], s)
  | c :: cs =>
    if c = '\n' then ([.text ['\n']], ⟨cs, s.apart - 1⟩)
    else if c = '\r' then ([.text ['\n']], ⟨cs, 1⟩)
    else if c = '\x00' then
      ([.problem .badCharacter, .text [Reference.replacement]], ⟨cs, s.apart - 1⟩)
    else readRun true s

/-- The next events, and what is left then. Unless nothing is left already, this uses up at least
one character. Behind a script the source begins anew, as far as a byte order mark is concerned. -/
def next (mode : TextMode) (characterData : Bool) (s : Source) : List Event × Source :=
  let raw (scan : RawScan) (name : List Char) : List Event × Source :=
    let (events, rest) := scan.close name
    (events, ⟨rest, 0⟩)
  match mode with
  | .markup => s.nextMarkup characterData
  | .plain => s.nextPlain
  | .escapable name => raw (readRaw name.toList true 0 s.rest) name.toList
  | .raw name => raw (readRaw name.toList false 0 s.rest) name.toList
  | .script =>
    let (events, rest) := (readScript .plain s.rest).close ScriptStage.scriptName
    (events, ⟨dropMark rest, 0⟩)

end Source

end HtmlText
