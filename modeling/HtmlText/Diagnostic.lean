/-!
# Diagnostics

A parser reports what is wrong with a source as a list of diagnostics. A source with at least one
diagnostic is malformed.

## Main definitions

* `Diagnostic`: one finding, with its text `Diagnostic.text`.
* `Malformed`: the refusal of a source, with its text `Malformed.message`.
-/

namespace HtmlText

/-- How serious a finding is. -/
inductive Severity
  | warning
  | error
deriving Repr, DecidableEq

/-- The name of a severity. -/
def Severity.name : Severity → String
  | .warning => "warning"
  | .error => "error"

/-- A finding of a parser, with its position, counted from 1, where the parser knows it. -/
structure Diagnostic where
  message : String
  severity : Severity
  line : Option Nat
  column : Option Nat
deriving Repr, DecidableEq

/-- An error without a position. -/
def Diagnostic.ofMessage (message : String) : Diagnostic := ⟨message, .error, none, none⟩

/-- The text of a finding. Its position is written only if line and column are both known. -/
def Diagnostic.text (d : Diagnostic) : String :=
  match d.line, d.column with
  | some line, some column => s!"{d.severity.name} at {line}:{column}: {d.message}"
  | _, _ => s!"{d.severity.name}: {d.message}"

/-- A source was refused because of these findings. -/
structure Malformed where
  diagnostics : List Diagnostic
deriving Repr, DecidableEq

/-- The text of the refusal: the number of findings and the first of them. -/
def Malformed.message (e : Malformed) : String :=
  match e.diagnostics with
  | [] => "malformed HTML: no parser diagnostics"
  | first :: _ =>
    s!"malformed HTML: {e.diagnostics.length} parser diagnostic(s), first: {first.message}"

end HtmlText
