import HtmlText.Command.Directive
import HtmlText.Converter
import HtmlText.Text.Pieces
import HtmlText.Text.Quoted

/-!
# Reports of a conversion

A conversion reports what it does in entries of different weight. Which of them are shown is decided
by directives, each for a part of the program named by the beginning of its name; for each entry the
most particular directive counts.

## Main definitions

* `Level`: the weight of an entry.
* `LogEntry`: an entry, with its line `LogEntry.line`.
* `LogFilter`: directives, with `LogFilter.ofVerbosity` and `LogFilter.parse?`.
* `Converter.log`: the entries of a conversion.
-/

namespace HtmlText

/-- The weight of an entry. -/
inductive Level
  | error
  | warn
  | info
  | debug
  | trace
deriving Repr, DecidableEq

namespace Level

/-- How far down a level is, from 1. -/
def rank : Level → Nat
  | error => 1
  | warn => 2
  | info => 3
  | debug => 4
  | trace => 5

/-- The name of a level. -/
def name : Level → String
  | error => "ERROR"
  | warn => "WARN"
  | info => "INFO"
  | debug => "DEBUG"
  | trace => "TRACE"

end Level

/-- An entry: the part of the program that it comes from, its weight, its message, and further
fields with their values. -/
structure LogEntry where
  target : String
  level : Level
  message : String
  details : List (String × String) := []
deriving Repr, DecidableEq

namespace LogEntry

/-- The line of an entry. -/
def line (e : LogEntry) : String :=
  e.level.name ++ " " ++ e.message ++
    String.join (e.details.map fun (field, value) => " " ++ field ++ "=" ++ value)

/-- The names of the fields of an entry. The message is one of them. -/
def fields (e : LogEntry) : List String := "message" :: e.details.map (·.1)

end LogEntry

/-- Whether a directive applies to an entry. -/
def LogDirective.appliesTo (d : LogDirective) (e : LogEntry) : Bool :=
  d.target.toList.isPrefixOf e.target.toList && d.field.all e.fields.contains

/-- Which entries are shown. -/
structure LogFilter where
  directives : List LogDirective
deriving Repr, DecidableEq

namespace LogFilter

/-- The directive that counts for an entry: among those that apply to it, the last of the most
particular ones. -/
def directiveFor (f : LogFilter) (e : LogEntry) : Option LogDirective :=
  (f.directives.filter (·.appliesTo e)).foldl (fun best d =>
    match best with
    | none => some d
    | some b => if d.atLeast b then some d else some b) none

/-- Whether an entry is shown. -/
def shows (f : LogFilter) (e : LogEntry) : Bool :=
  match f.directiveFor e with
  | none => false
  | some d => e.level.rank ≤ d.limit

/-- The name of the program as a whole. -/
def program : String := "textdown"

/-- The filter for a given number of requests for more reports. -/
def ofVerbosity (n : Nat) : LogFilter :=
  ⟨[⟨program, none, min (n + Level.warn.rank) rankOfAll⟩]⟩

/-- The filter that a text describes by directives with commas between them. Without any, errors are
shown. -/
def parse? (s : String) : Option LogFilter :=
  let texts := (pieces ',' s.toList).filter (· ≠ [])
  (texts.mapM parseDirective?).map fun directives =>
    ⟨if directives.isEmpty then [⟨"", none, Level.error.rank⟩] else directives.filterMap id⟩

/-- The filter for a run: the one that the environment describes, if it does, and otherwise the one
of the arguments. -/
def choose (environment : Option String) (verbosity : Nat) : LogFilter :=
  (environment.bind parse?).getD (ofVerbosity verbosity)

/-- The lines of the entries that are shown. -/
def lines (f : LogFilter) (entries : List LogEntry) : List String :=
  (entries.filter f.shows).map LogEntry.line

end LogFilter

namespace Converter

/-- The part of the program that builds documents, as directives name it. -/
def documentBuilder : String := "html5ever::tree_builder"

/-- The entries of reading a page: one for every token that did not belong into the table where it
stood, and one for the page. -/
def pageEntries (page : Page) : List LogEntry :=
  List.replicate page.misplaced
      ⟨documentBuilder, .warn, "foster parenting not implemented", []⟩ ++
    [⟨"textdown::html", .debug, "parsed html",
      [("mode", page.mode.name), ("nodes", toString page.tree.size),
        ("diagnostics", toString page.diagnostics.length)]⟩]

/-- The entries of accepting a page in spite of its diagnostics. -/
def repairEntries (c : Converter) (page : Page) : List LogEntry :=
  if c.options.strict then []
  else
    page.diagnostics.map fun d =>
      ⟨"textdown::service", .warn, "parser repaired input", [("diagnostic", d.text)]⟩

/-- The entries of rendering a tree: one for every tag without a rule, in the order in which they
are visited. -/
def renderEntries (c : Converter) (t : Tree) : List LogEntry :=
  let tags := match t.contents with
    | [] => []
    | content :: _ => content.lookups c.rules
  (tags.filter fun tag => (c.rules.find? tag).isNone).map fun tag =>
    ⟨"textdown::rules", .trace, "no rule for tag, rendering children only",
      [("tag", quoted tag)]⟩

/-- The entries of a conversion. -/
def log (c : Converter) (html : String) : List LogEntry :=
  if isBlankText html then []
  else
    let page := Page.ofSource (normalize html)
    pageEntries page ++ c.repairEntries page ++
      match c.accept page with
      | .error _ => []
      | .ok t =>
        c.renderEntries t ++
          [⟨"textdown::service", .debug, "converted html to text",
            [("input_len", toString html.utf8ByteSize),
              ("output_len", toString (c.render t).utf8ByteSize)]⟩]

end Converter

end HtmlText
