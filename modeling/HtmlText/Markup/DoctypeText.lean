import HtmlText.Markup.TagText

/-!
# Reading document types

A document type has a name and may have a public and a system identifier in quotes, each announced
by its keyword. Where something else is found, the document type counts as incomplete, and the rest
up to the closing bracket is passed over.

## Main definitions

* `readDoctype`: a document type behind its keyword.
-/

namespace HtmlText

namespace Doctype

/-- The document type is broken off by its closing bracket or by the end of the source. -/
def cutShort (d : Doctype) (problem : Problem) (rest : List Char) : Scan Doctype :=
  ⟨[problem], { d with incomplete := true }, rest⟩

/-- A character is out of place: the rest is passed over, but its null characters are noted. -/
def passOver (d : Doctype) (rest : List Char) : Scan Doctype :=
  ⟨.badCharacter :: nameProblems [] (rest.takeWhile (· ≠ '>')), d,
    (rest.dropWhile (· ≠ '>')).drop 1⟩

/-- The same outcome with problems met before. -/
def withProblems (problems : List Problem) (scan : Scan Doctype) : Scan Doctype :=
  { scan with problems := problems ++ scan.problems }

/-- The characters of an identifier up to its quote or a closing bracket, with their problems. -/
def identifier (quote : Char) (cs : List Char) : Scan String :=
  let text := cs.takeWhile fun c => c ≠ quote && c ≠ '>'
  ⟨nameProblems [] text,
    String.ofList (text.map fun c =>
      if c = '\x00' then Reference.replacement else sourceChar c),
    cs.dropWhile fun c => c ≠ quote && c ≠ '>'⟩

/-- An identifier in quotes, put into the document type by `set`, and what `next` reads behind
it. -/
def quoted (set : String → Doctype) (quote : Char) (cs : List Char)
    (next : Doctype → List Char → Scan Doctype) : Scan Doctype :=
  let scan := identifier quote cs
  let d := set scan.value
  withProblems scan.problems <|
    match scan.rest with
    | [] => d.cutShort .unexpectedEnd []
    | c :: rest => if c = '>' then d.cutShort .badCharacter rest else next d rest

/-- Behind the system identifier, nothing is left but the closing bracket. -/
def afterSystem (d : Doctype) (cs : List Char) : Scan Doctype :=
  match cs.dropWhile isMarkupBlank with
  | [] => d.cutShort .unexpectedEnd []
  | '>' :: rest => ⟨[], d, rest⟩
  | rest => d.passOver rest

/-- The system identifier, with the problems of a missing blank before it. -/
def system (d : Doctype) (gap : List Problem) (quote : Char) (cs : List Char) : Scan Doctype :=
  withProblems gap
    (quoted (fun id => { d with systemId := some id }) quote cs afterSystem)

/-- Behind the public identifier, the system identifier may follow. -/
def afterPublic (d : Doctype) (cs : List Char) : Scan Doctype :=
  let gap := match cs with
    | c :: _ => if isMarkupBlank c then [] else [Problem.badCharacter]
    | [] => []
  match cs.dropWhile isMarkupBlank with
  | [] => d.cutShort .unexpectedEnd []
  | '>' :: rest => ⟨[], d, rest⟩
  | '"' :: rest => d.system gap '"' rest
  | '\'' :: rest => d.system gap '\'' rest
  | rest => { d with incomplete := true }.passOver rest

/-- Behind a keyword, its identifier follows in quotes. -/
def afterKeyword (d : Doctype) (isPublic : Bool) (cs : List Char) : Scan Doctype :=
  let gap := match cs with
    | c :: _ => if isMarkupBlank c then [] else [Problem.badCharacter]
    | [] => []
  let begin (quote : Char) (rest : List Char) : Scan Doctype :=
    if isPublic then
      withProblems gap
        (quoted (fun id => { d with publicId := some id }) quote rest afterPublic)
    else d.system gap quote rest
  match cs.dropWhile isMarkupBlank with
  | [] => d.cutShort .unexpectedEnd []
  | '>' :: rest => d.cutShort .badCharacter rest
  | '"' :: rest => begin '"' rest
  | '\'' :: rest => begin '\'' rest
  | rest => { d with incomplete := true }.passOver rest

/-- Behind the name of a document type. -/
def afterName (d : Doctype) (cs : List Char) : Scan Doctype :=
  match cs.dropWhile isMarkupBlank with
  | [] => d.cutShort .unexpectedEnd []
  | '>' :: rest => ⟨[], d, rest⟩
  | rest =>
    match dropAsciiWord? "public".toList rest, dropAsciiWord? "system".toList rest with
    | some rest, _ => d.afterKeyword true rest
    | none, some rest => d.afterKeyword false rest
    | none, none => { d with incomplete := true }.passOver rest

end Doctype

/-- The document type behind its keyword. -/
def readDoctype (cs : List Char) : Scan Doctype :=
  let gap := match cs with
    | c :: _ => if isMarkupBlank c || c = '>' then [] else [Problem.badCharacter]
    | [] => []
  Doctype.withProblems gap <|
    match cs.dropWhile isMarkupBlank with
    | [] => ({} : Doctype).cutShort .unexpectedEnd []
    | '>' :: rest => ({} : Doctype).cutShort .badCharacter rest
    | cs =>
      let name := cs.takeWhile fun c => !isMarkupBlank c && c ≠ '>'
      let d : Doctype := { name := some (String.ofList (name.map nameChar)) }
      Doctype.withProblems (nameProblems [] name)
        (d.afterName (cs.dropWhile fun c => !isMarkupBlank c && c ≠ '>'))

/-- The events of a document type. -/
def doctypeEvents (scan : Scan Doctype) : List Event :=
  scan.problems.map Event.problem ++ [.token (.doctype scan.value)]

end HtmlText
