/-!
# Patterns for values

A directive for reports may ask for the value of a field by a regular expression. No report is
looked at so closely, but a directive with a text that is no regular expression is a mistake of the
user.

## Main definitions

* `PatternState`: how far a regular expression has been read.
* `isPattern`: whether a text is a regular expression.
-/

namespace HtmlText

/-- What the next character of a regular expression belongs to. -/
inductive PatternPlace
  /-- An item of the expression, or a member of a set. -/
  | item
  /-- The character behind a backslash. -/
  | escape
  /-- The beginning of a set, where a closing bracket is a member. -/
  | setStart
  /-- The beginning of a group, where a question mark announces options. -/
  | groupStart
  /-- The options of a group. -/
  | groupOptions
  /-- The name of a group. -/
  | groupName
deriving Repr, DecidableEq

/-- How far a regular expression has been read. -/
structure PatternState where
  place : PatternPlace := .item
  /-- The number of open groups. -/
  groups : Nat := 0
  /-- The number of open sets, which may lie inside each other. -/
  sets : Nat := 0
  /-- There is an item before that can be repeated. -/
  repeatable : Bool := false
deriving Repr, DecidableEq

/-- A character that may stand behind a backslash: a mark, or the letter of a class of characters,
of a control character or of an end of the text. -/
def isEscapable (c : Char) : Bool :=
  if c.isAlphanum then "ADPSUWadfnprstuvwxz".toList.contains c
  else '!' ≤ c && c ≤ '~' && c ≠ '<' && c ≠ '>'

namespace PatternState

/-- Go on after an item. -/
def afterItem (st : PatternState) : PatternState := { st with place := .item, repeatable := true }

/-- Go on where nothing stands before that can be repeated. -/
def fresh (st : PatternState) : PatternState := { st with place := .item, repeatable := false }

/-- A member of a set. -/
def takeMember (st : PatternState) (c : Char) : PatternState :=
  if c = '[' then { st with place := .setStart, sets := st.sets + 1 }
  else if c = ']' then { st with sets := st.sets - 1 }.afterItem
  else if c = '\\' then { st with place := .escape }
  else st.afterItem

/-- An item outside of sets. -/
def takeItem (st : PatternState) (c : Char) : Option PatternState :=
  if c = '\\' then some { st with place := .escape }
  else if c = '[' then some { st with place := .setStart, sets := 1 }
  else if c = '(' then some { st with place := .groupStart, groups := st.groups + 1 }
  else if c = ')' then
    if st.groups = 0 then none else some { st with groups := st.groups - 1 }.afterItem
  else if c = '|' then some st.fresh
  else if c = '*' || c = '+' || c = '?' then if st.repeatable then some st else none
  else if c = '\x7b' then none
  else some st.afterItem

/-- One more character. -/
def take (st : PatternState) (c : Char) : Option PatternState :=
  match st.place with
  | .item => if st.sets = 0 then st.takeItem c else some (st.takeMember c)
  | .escape => if isEscapable c then some st.afterItem else none
  | .setStart =>
    if c = '^' then some st else if c = ']' then some st.afterItem else some (st.takeMember c)
  | .groupStart =>
    if c = '?' then some { st with place := .groupOptions } else st.fresh.takeItem c
  | .groupOptions =>
    if c = ':' then some st.fresh
    else if c = ')' then some { st with groups := st.groups - 1 }.fresh
    else if c = '<' then some { st with place := .groupName }
    else if "PRUimsux-".toList.contains c then some st
    else none
  | .groupName =>
    if c = '>' then some st.fresh else if c.isAlphanum || c = '_' then some st else none

/-- The expression may end. -/
def isComplete (st : PatternState) : Bool := st.place = .item && st.groups = 0 && st.sets = 0

end PatternState

/-- Whether a text is a regular expression. -/
def isPattern (cs : List Char) : Bool :=
  match cs.foldlM PatternState.take {} with
  | some st => st.isComplete
  | none => false

end HtmlText
