import HtmlText.Command.FieldPattern
import HtmlText.Command.Number
import HtmlText.Text.AlphanumericTable
import HtmlText.Text.Blank
import HtmlText.Text.CodeRange

/-!
# Directives for reports

A directive says how much is reported about a part of the program. It consists of the name of the
part, of a scope in square brackets and of a level behind an equals sign, and each of them may be
missing. A scope names a stage of the work, and in braces a field that an entry must have, perhaps
with its value.

No stages are told apart and no values are looked at, so that a directive for a stage or for a value
applies to no entry. Blanks around a directive count as characters of its name, and are a mistake
where there is a level.

## Main definitions

* `LogDirective`: a directive that may apply to entries.
* `DirectiveScope`, `DirectiveText`: what stands in square brackets, and a directive as a whole.
* `levelRank?`: the rank that a text names.
* `parseDirective?`: the directive that a text writes.
-/

namespace HtmlText

/-- A directive: entries of the parts whose names begin with `target` that have the field are shown
if the rank of their level is at most `limit`. -/
structure LogDirective where
  target : String
  field : Option String
  limit : Nat
deriving Repr, DecidableEq

namespace LogDirective

/-- Whether a field is at least as particular as another one. -/
def fieldAtLeast : Option String → Option String → Bool
  | _, none => true
  | none, some _ => false
  | some d, some e => e ≤ d

/-- Whether a directive is at least as particular as another one: its name is longer, or the names
are equally long and it asks for a field, or both do and the order of the fields decides. -/
def atLeast (d e : LogDirective) : Bool :=
  e.target.length < d.target.length ||
    (e.target.length = d.target.length && fieldAtLeast d.field e.field)

end LogDirective

/-! ### Scopes -/

/-- What stands in the square brackets of a directive. -/
structure DirectiveScope where
  /-- A stage of the work is named. -/
  ofStage : Bool
  /-- The name of a field, if there is one. -/
  field : Option (List Char)
  /-- The value of the field, if there is one. -/
  value : Option (List Char)
deriving Repr, DecidableEq

namespace DirectiveScope

/-- Whether a scope can be met by entries. -/
def isOpen (s : DirectiveScope) : Bool := !s.ofStage && s.value.isNone

/-- Whether the value of a scope is a number or a pattern. -/
def hasProperValue (s : DirectiveScope) : Bool :=
  s.value.all fun cs =>
    match readNumber cs with
    | .ok _ => true
    | .error _ => isPattern cs

/-- The scope with a field. Its value stands between the first two equals signs. -/
def ofField (ofStage : Bool) (cs : List Char) : DirectiveScope :=
  ⟨ofStage, some (cs.takeWhile (· ≠ '=')),
    match cs.dropWhile (· ≠ '=') with
    | [] => none
    | _ :: value => some (value.takeWhile (· ≠ '='))⟩

/-- A scope, behind its opening bracket, and what follows it. Without a field, even the empty name
is one of a stage. -/
def read? (cs : List Char) : Option (DirectiveScope × List Char) :=
  let endsName (c : Char) : Bool := c = ']' || c = '\x7b'
  match cs.dropWhile (!endsName ·) with
  | ']' :: rest => some (⟨true, none, none⟩, rest)
  | '\x7b' :: rest =>
    let field := rest.takeWhile (· ≠ '\x7d')
    match rest.dropWhile (· ≠ '\x7d') with
    | _ :: ']' :: rest =>
      if field = [] then none else some (.ofField (!(cs.head?.all endsName)) field, rest)
    | _ => none
  | _ => none

end DirectiveScope

/-! ### Levels -/

/-- The rank that shows entries of every level. -/
def rankOfAll : Nat := 5

/-- The names of the ranks of levels. -/
def levelNames : List (String × Nat) :=
  [("off", 0), ("error", 1), ("warn", 2), ("info", 3), ("debug", 4), ("trace", rankOfAll)]

/-- The rank that a text names, by a number or by a word in small or capital letters. -/
def levelRank? (cs : List Char) : Option Nat :=
  match readNumber cs with
  | .ok n => if n ≤ rankOfAll then some n else none
  | .error _ => levelNames.lookup (String.ofList (cs.map Char.toLower))

/-- The rank of the level behind an equals sign, if there is one. -/
def levelPart? : Option (List Char) → Option Nat
  | none | some [] => some rankOfAll
  | some cs => levelRank? cs

/-! ### Reading directives -/

/-- The parts of a directive. -/
structure DirectiveText where
  target : List Char
  scope : Option DirectiveScope
  level : Option (List Char)
deriving Repr, DecidableEq

/-- A character that a directive may begin with. -/
def beginsDirective (c : Char) : Bool :=
  c = '[' || c = '-' || c = ':' || c = '_' || inRanges alphanumericRanges c.toNat

/-- Take a directive apart. -/
def DirectiveText.read? (cs : List Char) : Option DirectiveText :=
  let endsTarget (c : Char) : Bool := c = '=' || c = '['
  let target := cs.takeWhile (!endsTarget ·)
  if !(cs.head?.any beginsDirective) then none
  else
    match cs.dropWhile (!endsTarget ·) with
    | [] => some ⟨target, none, none⟩
    | '[' :: rest =>
      match DirectiveScope.read? rest with
      | some (scope, []) => some ⟨target, some scope, none⟩
      | some (scope, '=' :: level) => some ⟨target, some scope, some level⟩
      | _ => none
    | _ :: level => some ⟨target, none, some level⟩

/-- A text without blanks at both ends. -/
def withoutOuterBlanks (cs : List Char) : List Char :=
  ((cs.dropWhile isUnicodeBlank).reverse.dropWhile isUnicodeBlank).reverse

/-- The directive that a text writes, or nothing inside if it applies to no entry. A name alone may
be that of a level. -/
def parseDirective? (cs : List Char) : Option (Option LogDirective) :=
  let body := withoutOuterBlanks cs
  match DirectiveText.read? body with
  | none => none
  | some ⟨_, none, none⟩ =>
    match levelRank? cs with
    | some limit => some (some ⟨"", none, limit⟩)
    | none => some (some ⟨String.ofList cs, none, rankOfAll⟩)
  | some ⟨target, scope, level⟩ =>
    if level.isSome && body ≠ cs then none
    else
      (levelPart? level).bind fun limit =>
        match scope with
        | none => some (some ⟨String.ofList target, none, limit⟩)
        | some scope =>
          if cs.head?.any isUnicodeBlank then some none
          else if !scope.hasProperValue then none
          else if scope.isOpen then
            some (some ⟨String.ofList target, scope.field.map String.ofList, limit⟩)
          else some none

end HtmlText
