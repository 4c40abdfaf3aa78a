import HtmlText.Markup.Reference
import HtmlText.Markup.Token

/-!
# Reading comments

A comment goes from `<!--` to `-->`. It may also end with `--!>`, and right at its beginning with
`>` or `->`, which are problems, as is a comment that begins inside another one. Other declarations
that make no sense are read as comments up to the next closing bracket.

## Main definitions

* `CommentStage`: how far the next end, or a nested beginning, has been read.
* `readComment`: a comment behind its opening.
* `readBogusComment`: a declaration without meaning.
-/

namespace HtmlText

/-- Where the reader of a comment stands. -/
inductive CommentStage
  /-- Right behind the opening. -/
  | opening
  /-- Behind the opening and a dash. -/
  | openingDash
  /-- Inside, behind so many characters of a nested `<!`. -/
  | inside (nested : Nat)
  /-- Behind a dash; `nested` if it follows a nested `<!`. -/
  | dash (nested : Bool)
  /-- Behind two dashes or more; `nested` if they complete a nested opening. -/
  | dashes (nested : Bool)
  /-- Behind two dashes and an exclamation mark. -/
  | bang
deriving Repr, DecidableEq

namespace CommentStage

/-- What a character does to a comment. -/
inductive Step
  /-- It ends the comment. -/
  | finish (problems : List Problem)
  /-- It adds characters, those that were held back among them, and leads to another stage. -/
  | go (problems : List Problem) (added : List Char) (next : CommentStage)
deriving Repr, DecidableEq

/-- A character that is neither part of an end nor of a nested opening, behind characters that were
held back. -/
def plain (held : List Char) (c : Char) : Step :=
  if c = '\x00' then .go [.badCharacter] (held ++ [Reference.replacement]) (.inside 0)
  else .go [] (held ++ [sourceChar c]) (.inside 0)

/-- What a character does inside a comment, behind so many characters of a nested `<!`, and behind
characters that were held back. -/
def insideStep (nested : Nat) (held : List Char) (c : Char) : Step :=
  if c = '<' then .go [] (held ++ ['<']) (.inside 1)
  else if c = '!' && nested = 1 then .go [] (held ++ ['!']) (.inside 2)
  else if c = '-' then .go [] held (.dash (nested = 2))
  else plain held c

/-- A step with problems met before. -/
def Step.withProblems (problems : List Problem) : Step → Step
  | .finish more => .finish (problems ++ more)
  | .go more added next => .go (problems ++ more) added next

/-- What the next character does. -/
def step : CommentStage → Char → Step
  | opening, c =>
    if c = '-' then .go [] [] openingDash
    else if c = '>' then .finish [.badCharacter]
    else plain [] c
  | openingDash, c =>
    if c = '-' then .go [] [] (dashes false)
    else if c = '>' then .finish [.badCharacter]
    else plain ['-'] c
  | inside nested, c => insideStep nested [] c
  | dash nested, c =>
    if c = '-' then .go [] [] (dashes nested) else plain ['-'] c
  | dashes nested, c =>
    let problems := if nested && c ≠ '>' then [Problem.badCharacter] else []
    if c = '>' then .finish []
    else if c = '!' then .go problems [] bang
    else if c = '-' then .go problems ['-'] (dashes false)
    else (insideStep 0 ['-', '-'] c).withProblems problems
  | bang, c =>
    if c = '-' then .go [] ['-', '-', '!'] (dash false)
    else if c = '>' then .finish [.badCharacter]
    else plain ['-', '-', '!'] c

end CommentStage

/-- The text of a comment from a stage on. -/
def readComment (stage : CommentStage) : List Char → Scan (List Char)
  | [] => ⟨[.unexpectedEnd], [], []⟩
  | c :: cs =>
    match stage.step c with
    | .finish problems => ⟨problems, [], cs⟩
    | .go problems added next => (readComment next cs).after problems added

/-- The text of a declaration without meaning, up to its closing bracket or the end of the
source. -/
def readBogusComment : List Char → Scan (List Char)
  | [] => ⟨[], [], []⟩
  | c :: cs =>
    if c = '>' then ⟨[], [], cs⟩
    else if c = '\x00' then (readBogusComment cs).after [.badCharacter] [Reference.replacement]
    else (readBogusComment cs).after [] [sourceChar c]

/-- The events of a comment. -/
def commentEvents (scan : Scan (List Char)) : List Event :=
  scan.problems.map Event.problem ++ [.token (.comment (String.ofList scan.value))]

end HtmlText
