import HtmlText.Markup.TagText

/-!
# Reading raw text

Inside some elements nothing but their own end tag is markup. In a script even that may be hidden:
a script may contain a comment, and the comment another script with an end tag of its own.

## Main definitions

* `endTagName?`: the end tag of the element.
* `readRaw`: text up to the end tag, with character references or without.
* `readScript`: the text of a script.
-/

namespace HtmlText

/-- Behind a name in any case that a blank, a slash or a closing bracket follows. -/
def dropTagName? (name : List Char) (cs : List Char) : Option (List Char) :=
  match dropAsciiWord? name cs with
  | some (c :: rest) => if endsTagName c then some (c :: rest) else none
  | _ => none

/-- Behind the name of an end tag, given the characters behind an opening bracket. -/
def endTagName? (name : List Char) : List Char → Option (List Char)
  | '/' :: cs => dropTagName? name cs
  | _ => none

/-- The outcome of reading raw text: its events, and the rest of the source behind the name of the
end tag, unless the source ends before. -/
structure RawScan where
  events : List Event
  rest : Option (List Char)
deriving Repr, DecidableEq

namespace RawScan

/-- A character read before. -/
def cons (c : Char) (scan : RawScan) : RawScan :=
  if c = '\x00' then
    { scan with
      events := .problem .badCharacter :: Event.consChar Reference.replacement scan.events }
  else { scan with events := Event.consChar (sourceChar c) scan.events }

/-- A character reference read before. -/
def after (reference : Reference) (scan : RawScan) : RawScan :=
  { scan with
    events := reference.problems.map Event.problem ++
      reference.expansion.foldr Event.consChar scan.events }

end RawScan

/-- The text of an element up to its end tag, after `skip` characters that belong to a reference
already read. -/
def readRaw (name : List Char) (references : Bool) : Nat → List Char → RawScan
  | _, [] => ⟨[], none⟩
  | skip + 1, _ :: cs => readRaw name references skip cs
  | 0, c :: cs =>
    if c = '&' && references then
      let reference := Reference.read false cs
      (readRaw name references reference.length cs).after reference
    else
      match if c = '<' then endTagName? name cs else none with
      | some rest => ⟨[], some rest⟩
      | none => (readRaw name references 0 cs).cons c

/-! ### Scripts -/

/-- Where the reader of a script stands. -/
inductive ScriptStage
  /-- In the script itself. -/
  | plain
  /-- Behind so many characters of the `!-` that opens a comment. -/
  | opening (read : Nat)
  /-- In a comment, behind so many dashes; `nested` says that it is in a script inside it. -/
  | comment (nested : Bool) (dashes : Nat)
deriving Repr, DecidableEq

namespace ScriptStage

/-- The name of the element. -/
def scriptName : List Char := "script".toList

/-- The next stage in the script itself. -/
def plainStep (c : Char) (cs : List Char) : ScriptStage :=
  if c = '<' && cs.head? = some '!' then opening 0 else plain

/-- The next stage behind a character, which `cs` follow. -/
def step : ScriptStage → Char → List Char → ScriptStage
  | plain, c, cs => plainStep c cs
  | opening read, c, cs =>
    if read = 0 then opening 1
    else if c = '-' then (if read = 1 then opening 2 else comment false 2)
    else plainStep c cs
  | comment nested dashes, c, cs =>
    if c = '-' then comment nested (dashes + 1)
    else if c = '>' && 2 ≤ dashes then plain
    else if c = '<' then
      if nested then comment (endTagName? scriptName cs).isNone 0
      else comment (dropTagName? scriptName cs).isSome 0
    else comment nested 0

/-- An end tag in this stage ends the script. -/
def endsAtTag : ScriptStage → Bool
  | comment nested _ => !nested
  | _ => true

/-- The source must not end in this stage. -/
def endProblems : ScriptStage → List Event
  | comment _ _ | opening 1 => [.problem .unexpectedEnd]
  | _ => []

end ScriptStage

/-- The text of a script from a stage on, up to its end tag. -/
def readScript (stage : ScriptStage) : List Char → RawScan
  | [] => ⟨stage.endProblems, none⟩
  | c :: cs =>
    match if c = '<' && stage.endsAtTag then endTagName? ScriptStage.scriptName cs else none with
    | some rest => ⟨[], some rest⟩
    | none => (readScript (stage.step c cs) cs).cons c

/-- The events of raw text and of its end tag, and the rest of the source. -/
def RawScan.close (scan : RawScan) (name : List Char) : List Event × List Char :=
  match scan.rest with
  | none => (scan.events, [])
  | some rest =>
    let tag := readAttributes (rest.length + 1) { name := String.ofList name } rest
    (scan.events ++ endTagEvents tag, tag.rest)

end HtmlText
