import HtmlText.Markup.Reference
import HtmlText.Markup.Token
import HtmlText.Text.Blank

/-!
# Reading tags

A tag is a name and a list of attributes up to a closing bracket. A tag that the source does not
finish is no tag. Of two attributes with the same name the first one counts; the second one is found
out when the next attribute begins or the tag ends, after the problems met there.

## Main definitions

* `readValue`: an attribute value up to its end.
* `TagDraft`: a tag as far as it is read.
* `readTag`: a tag from its name on.
-/

namespace HtmlText

/-- A small letter for a capital one. -/
def lowerAscii (c : Char) : Char := c.toLower

/-- Behind a word in any case, written in small letters. -/
def dropAsciiWord? : List Char → List Char → Option (List Char)
  | [], cs => some cs
  | _ :: _, [] => none
  | letter :: word, c :: cs => if lowerAscii c = letter then dropAsciiWord? word cs else none

/-- The characters of an attribute value up to one that ends it, after `skip` characters that
belong to a reference already read. -/
def readValue (ends : Char → Bool) : Nat → List Char → Scan (List Char)
  | _, [] => ⟨[], [], []⟩
  | skip + 1, _ :: cs => readValue ends skip cs
  | 0, c :: cs =>
    if ends c then ⟨[], [], c :: cs⟩
    else if c = '&' then
      let reference := Reference.read true cs
      (readValue ends reference.length cs).after reference.problems reference.expansion
    else if c = '\x00' then (readValue ends 0 cs).after [.badCharacter] [Reference.replacement]
    else (readValue ends 0 cs).after [] [sourceChar c]

/-- A character of a name as it counts: a small letter for a capital one, and the replacement
character for the one with number 0. -/
def nameChar (c : Char) : Char := if c = '\x00' then Reference.replacement else lowerAscii c

/-- The problems of the characters of a name among which those in `bad` are out of place. -/
def nameProblems (bad : List Char) (cs : List Char) : List Problem :=
  (cs.filter fun c => c = '\x00' || bad.contains c).map fun _ => .badCharacter

/-- A tag as far as it is read. The latest attribute may still turn out to be a repetition. -/
structure TagDraft where
  name : String
  attributes : List (String × String) := []
  latest : Option (String × String) := none
  problems : List Problem := []
deriving Repr, DecidableEq

namespace TagDraft

/-- Add a problem. -/
def note (d : TagDraft) (problems : List Problem) : TagDraft :=
  { d with problems := d.problems ++ problems }

/-- Count the latest attribute, unless it repeats another one. -/
def settle (d : TagDraft) : TagDraft :=
  match d.latest with
  | none => d
  | some (name, value) =>
    if (d.attributes.lookup name).isSome then
      { d.note [.duplicateAttribute] with latest := none }
    else { d with attributes := d.attributes ++ [(name, value)], latest := none }

/-- The tag is complete. -/
def close (d : TagDraft) (selfClosing : Bool) (rest : List Char) : Scan (Option Tag) :=
  let d := d.settle
  ⟨d.problems, some ⟨d.name, d.attributes, selfClosing⟩, rest⟩

/-- The source ends inside the tag. -/
def breakOff (d : TagDraft) : Scan (Option Tag) := ⟨d.problems ++ [.unexpectedEnd], none, []⟩

end TagDraft

/-- A character that ends the name of a tag. -/
def endsTagName (c : Char) : Bool := isMarkupBlank c || c = '/' || c = '>'

/-- A character that ends the name of an attribute. -/
def endsAttributeName (c : Char) : Bool := endsTagName c || c = '='

/-- Begin an attribute. Its first character may be anything, but some are out of place. -/
def TagDraft.beginAttribute (d : TagDraft) (first : Char) (name : List Char) : TagDraft :=
  let d := (d.note (nameProblems ['"', '\'', '<', '='] [first])).settle
  { d.note (nameProblems ['"', '\'', '<'] name) with
    latest := some (String.ofList ((first :: name).map nameChar), "") }

/-- Give the latest attribute its value. -/
def TagDraft.setValue (d : TagDraft) (scan : Scan (List Char)) : TagDraft :=
  { d.note scan.problems with
    latest := d.latest.map fun (name, _) => (name, String.ofList scan.value) }

/-- After a quoted value, the tag goes on with a blank, a slash or its closing bracket. -/
def gapProblems : List Char → List Problem
  | [] => []
  | c :: _ => if endsTagName c then [] else [.badCharacter]

/-- The value behind an equals sign, and the rest of the tag. A missing value is found out at the
closing bracket, which is left where it is. -/
def TagDraft.readValue (d : TagDraft) (cs : List Char) : TagDraft × List Char :=
  let quoted (scan : Scan (List Char)) : TagDraft × List Char :=
    ((d.setValue scan).note (gapProblems scan.rest.tail), scan.rest.tail)
  match cs.dropWhile isMarkupBlank with
  | [] => (d, [])
  | '>' :: rest => (d.note [.badCharacter], '>' :: rest)
  | '"' :: cs => quoted (HtmlText.readValue (· = '"') 0 cs)
  | '\'' :: cs => quoted (HtmlText.readValue (· = '\'') 0 cs)
  | cs =>
    let scan := HtmlText.readValue (fun c => isMarkupBlank c || c = '>') 0 cs
    (d.setValue scan, scan.rest)

/-- One attribute, and the rest of the tag. -/
def TagDraft.readAttribute (d : TagDraft) (first : Char) (cs : List Char) : TagDraft × List Char :=
  let d := d.beginAttribute first (cs.takeWhile (!endsAttributeName ·))
  match (cs.dropWhile (!endsAttributeName ·)).dropWhile isMarkupBlank with
  | '=' :: cs => d.readValue cs
  | cs => (d, cs)

/-- The attributes of a tag and its end. Each round uses up a character, so as many rounds as there
are characters are enough, and one more for the end of the source. -/
def readAttributes : Nat → TagDraft → List Char → Scan (Option Tag)
  | 0, d, _ => d.breakOff
  | rounds + 1, d, cs =>
    match cs.dropWhile isMarkupBlank with
    | [] => d.breakOff
    | '>' :: rest => d.close false rest
    | '/' :: [] => d.breakOff
    | '/' :: '>' :: rest => d.close true rest
    | '/' :: rest => readAttributes rounds (d.note [.badCharacter]) rest
    | first :: cs =>
      let (d, rest) := d.readAttribute first cs
      readAttributes rounds d rest

/-- The tag whose name begins with the first of the characters. -/
def readTag (cs : List Char) : Scan (Option Tag) :=
  let name := cs.takeWhile (!endsTagName ·)
  let rest := cs.dropWhile (!endsTagName ·)
  readAttributes (rest.length + 1)
    { name := String.ofList (name.map nameChar), problems := nameProblems [] name } rest

/-- The problems of an end tag, which should have a name and nothing else. -/
def endTagProblems (t : Tag) : List Problem :=
  (if t.attributes.isEmpty then [] else [.attributesOnEndTag]) ++
    (if t.selfClosing then [.selfClosingEndTag] else [])

/-- The events of an end tag. -/
def endTagEvents (scan : Scan (Option Tag)) : List Event :=
  scan.problems.map Event.problem ++
    match scan.value with
    | none => []
    | some t => (endTagProblems t).map Event.problem ++ [.token (.endTag t)]

/-- The events of a start tag. -/
def startTagEvents (scan : Scan (Option Tag)) : List Event :=
  scan.problems.map Event.problem ++
    match scan.value with
    | none => []
    | some t => [.token (.startTag t)]

end HtmlText
