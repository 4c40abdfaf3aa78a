import HtmlText.Markup.Construct.Document

/-!
# Parsing a source

The tokens of a source are constructed one after the other. A token falls under the rules of the
mode, or under those of foreign content, until it is dealt with. Text that is partly blank is taken
apart in the modes that treat blanks differently.

## Main definitions

* `ConstructMode.rules`: the rules of a mode.
* `Builder.settle`: all that follows from one token.
* `Builder.feed`: the next event of a source.
* `parseDocument`, `parseFragment`: a source as a whole.
-/

namespace HtmlText

/-- The rules of a mode. -/
def ConstructMode.rules : ConstructMode → Builder → Token → Step
  | .initial => Builder.initialRules
  | .beforeHtml => Builder.beforeHtmlRules
  | .beforeHead => Builder.beforeHeadRules
  | .inHead => Builder.headRules
  | .afterHead => Builder.afterHeadRules
  | .inBody => Builder.bodyRules
  | .rawText => Builder.rawTextRules
  | .inTable => Builder.tableRules
  | .inTableText => Builder.tableTextRules
  | .inCaption => Builder.captionRules
  | .inColumnGroup => Builder.columnGroupRules
  | .inTableBody => Builder.tableBodyRules
  | .inRow => Builder.rowRules
  | .inCell => Builder.cellRules
  | .inSelect => Builder.selectRules
  | .inSelectInTable => Builder.selectInTableRules
  | .inTemplate => Builder.templateRules
  | .afterBody => Builder.afterBodyRules
  | .inFrameset => Builder.framesetRules
  | .afterFrameset => Builder.afterFramesetRules
  | .afterAfterBody => Builder.afterAfterBodyRules
  | .afterAfterFrameset => Builder.afterAfterFramesetRules

/-- Whether a mode treats blank text differently from other text. -/
def ConstructMode.splitsText : ConstructMode → Bool
  | .initial | .beforeHtml | .beforeHead | .inHead | .afterHead | .inColumnGroup | .afterBody
  | .inFrameset | .afterFrameset | .afterAfterBody | .afterAfterFrameset => true
  | _ => false

namespace Builder

/-- What becomes of a token under the rules that it falls under now. -/
def step (b : Builder) (t : Token) : Step :=
  if b.isForeign t then b.foreignRules b.mode.rules t else b.mode.rules b t

/-- A token dealt with by a rule that knows nothing of self-closing tags. -/
def checkSelfClosing (b : Builder) (t : Token) : Builder :=
  match t with
  | .startTag tag => if tag.selfClosing then b.report .unacknowledgedSelfClosing else b
  | _ => b

/-- Whether text is to be taken apart before it is dealt with. -/
def splits (b : Builder) (t : Token) : Bool := b.mode.splitsText && !b.isForeign t

/-- All that follows from a token and from text behind it. Every round deals with a run of text,
closes an element, opens one that was missing or goes over to another mode. -/
def settleWithin : Nat → Builder → Token → List Char → Builder
  | 0, b, _, _ => b
  | rounds + 1, b, t, later =>
    let (t, later) : Token × List Char :=
      match t with
      | .text cs =>
        if b.splits t then (.text (splitRun cs).1, (splitRun cs).2 ++ later) else (t, later)
      | _ => (t, later)
    let proceed (b : Builder) : Builder :=
      if later.isEmpty then b else settleWithin rounds b (.text later) []
    match b.step t with
    | (b, .done) => proceed (b.checkSelfClosing t)
    | (b, .acknowledged) => proceed b
    | (b, .again t) => settleWithin rounds b t later

/-- The rounds that are enough for a token. -/
def roundsFor (b : Builder) (t : Token) : Nat :=
  let length := match t with
    | .text cs => cs.length
    | _ => 0
  8 * (b.stack.length + b.templateModes.length + 4) + 2 * length

/-- All that follows from a token. -/
def settle (b : Builder) (t : Token) : Builder := settleWithin (b.roundsFor t) b t []

/-- The next event of a source. A line feed right behind certain start tags does not count. -/
def feed (b : Builder) (e : Event) : Builder :=
  let dropLineFeed := b.dropLineFeed
  let b := { b with dropLineFeed := false }
  match e with
  | .problem p => b.report p
  | .token (.doctype d) => b.startDocument d
  | .token (.text cs) =>
    let cs := if dropLineFeed && cs.head? = some '\n' then cs.tail else cs
    if cs.isEmpty then b else b.settle (.text cs)
  | .token t => b.settle t

/-- The rest of a source. Each round uses up a character, so as many rounds as there are characters
are enough, and one more for the end of the source. -/
def run : Nat → Builder → Source → Builder
  | 0, b, _ => b
  | rounds + 1, b, s =>
    if s.rest.isEmpty then b.feed (.token .sourceEnd)
    else
      let (events, s) := s.next b.textMode b.inForeign
      run rounds (events.foldl feed b) s

/-- The state at the beginning of the content of a body. -/
def fragmentStart : Builder :=
  { ({} : Builder).insertRoot [] with fragment := true, mode := .inBody }

/-- Construct a source to its end. -/
def construct (b : Builder) (s : String) : Builder :=
  let source := Source.ofString s
  run (source.rest.length + 1) b source

end Builder

/-- A parsed source: its root element, the problems in the order in which they came up, and the
number of tokens that did not belong into the table where they stood. -/
structure Parsed where
  root : Dom
  problems : List Problem
  misplaced : Nat
deriving Repr

/-- The outcome of construction. -/
def Builder.finish (b : Builder) : Parsed where
  root := (b.draft.rootElement?.bind b.draft.toDom).getD (.element "html" [] [])
  problems := b.problems.reverse
  misplaced := b.misplaced

/-- Parse a source as a complete document. -/
def parseDocument (s : String) : Parsed := (({} : Builder).construct s).finish

/-- Parse a source as the content of a body. -/
def parseFragment (s : String) : Parsed := (Builder.fragmentStart.construct s).finish

end HtmlText
