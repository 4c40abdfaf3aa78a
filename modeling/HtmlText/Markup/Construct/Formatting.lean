import HtmlText.Markup.Construct.State

/-!
# Formatting

Formatting such as bold text goes on in the next block when it has not been ended, so its elements
are made again there. An end tag for formatting that is open around a block takes the block out: the
elements between them are made again, the block moves up to where the formatting began, and what it
contains is wrapped in a new formatting element.

## Main definitions

* `Builder.reconstruct`: make the formatting in force again.
* `Builder.insertFormatting`: the element of a formatting tag.
* `Builder.closeGeneric`: a generic end tag.
* `Builder.closeFormatting`: the end tag of a formatting element.
-/

namespace HtmlText

namespace Builder

/-- Whether formatting needs not be made again: it is a marker, or its element is open. -/
def isSettled (b : Builder) : Formatting → Bool
  | .marker => true
  | .element id _ => b.stack.any (·.id = id)

/-- Make formatting again, from the entry that was put in force first on; the entries are given
latest first. -/
def reopen (b : Builder) : List Formatting → Builder × List Formatting
  | [] => (b, [])
  | entry :: earlier =>
    let (b, earlier) := b.reopen earlier
    match entry with
    | .marker => (b, .marker :: earlier)
    | .element _ tag =>
      let (b, id) := b.insertOpen (.html tag.name) tag.attributes
      (b, .element id tag :: earlier)

/-- Make the formatting in force again, as far as it is not open. -/
def reconstruct (b : Builder) : Builder :=
  let missing := b.formatting.takeWhile (!b.isSettled ·)
  let (b', entries) := b.reopen missing
  { b' with formatting := entries ++ b.formatting.drop missing.length }

/-- The formatting since the last marker, latest first. -/
def recentFormatting (b : Builder) : List Formatting := b.formatting.takeWhile (· ≠ .marker)

/-- Whether two lists of distinct attributes are the same up to order. -/
def sameAttributes (as bs : List (String × String)) : Bool :=
  as.length = bs.length && as.all bs.contains

/-- Whether formatting comes from an equal tag. -/
def comesFrom (t : Tag) : Formatting → Bool
  | .marker => false
  | .element _ u => t.name = u.name && sameAttributes t.attributes u.attributes

/-- The number of the element of formatting. -/
def Formatting.id? : Formatting → Option Nat
  | .marker => none
  | .element id _ => some id

/-- Take the formatting of an element out of force. -/
def removeFormatting (b : Builder) (id : Nat) : Builder :=
  { b with formatting := b.formatting.eraseP fun entry => Formatting.id? entry = some id }

/-- Insert and open the element of a formatting tag. Of formatting from equal tags no more than
three elements are in force: the earliest of them gives way. -/
def insertFormatting (b : Builder) (t : Tag) : Builder :=
  let equal := b.recentFormatting.filter (comesFrom t)
  let b :=
    match equal.getLast?.bind Formatting.id? with
    | some earliest => if 3 ≤ equal.length then b.removeFormatting earliest else b
    | none => b
  let (b, id) := b.insertOpen (.html t.name) t.attributes
  { b with formatting := .element id t :: b.formatting }

/-- Whether a generic end tag finds its element before a special one, given the open elements. -/
def findsGeneric (tag : String) : List OpenElement → Bool
  | [] => true
  | e :: stack => e.name = .html tag || (!e.name.isSpecial && findsGeneric tag stack)

/-- An end tag without rules of its own closes the innermost element with its name, unless a special
element is in the way. -/
def closeGeneric (b : Builder) (tag : String) : Builder :=
  if findsGeneric tag b.stack then
    if b.hasOpen tag then
      let b := b.closeImpliedExcept tag
      let closed := b.popThrough (· = .html tag)
      if b.current.name = .html tag then closed else closed.unexpected
    else b.unexpected
  else b.report .specialElementInTheWay

/-! ### Taking a block out of formatting -/

/-- The state inside the walk from a block out to the formatting element around it. -/
structure Walk where
  builder : Builder
  /-- The open elements that stay between the two, innermost first. -/
  kept : List OpenElement := []
  /-- The node that moves into the next element. -/
  moving : Nat
  /-- The formatting behind which the new formatting comes, if not in place of the old one. -/
  bookmark : Option Nat := none

/-- The formatting of an element. -/
def formattingTag? (b : Builder) (id : Nat) : Option Tag :=
  b.formatting.findSome? fun
    | .marker => none
    | .element other tag => if other = id then some tag else none

/-- Refer formatting to another element. -/
def replaceFormatting (b : Builder) (id : Nat) (entry : Formatting) : Builder :=
  { b with
    formatting := b.formatting.map fun old =>
      if Formatting.id? old = some id then entry else old }

/-- One step of the walk: an element between the block and the formatting element. The first three
of them, if they are formatting, are made again around what moves; all others are closed. -/
def Walk.step (block : Nat) (w : Walk) (e : OpenElement) (count : Nat) : Walk :=
  if 3 < count then { w with builder := w.builder.removeFormatting e.id }
  else
    match w.builder.formattingTag? e.id with
    | none => w
    | some tag =>
      let (draft, id) := w.builder.draft.addElement (.html tag.name) tag.attributes
      let b := { w.builder with draft }.replaceFormatting e.id (.element id tag)
      { builder := { b with draft := (b.draft.detach w.moving).append id w.moving }
        kept := w.kept ++ [⟨id, .html tag.name⟩]
        moving := id
        bookmark := if w.moving = block then some id else w.bookmark }

/-- The walk over all elements between the block and the formatting element, innermost first. -/
def walkOut (block : Nat) (w : Walk) : List OpenElement → Nat → Walk
  | [], _ => w
  | e :: between, count => walkOut block (w.step block e count) between (count + 1)

/-- Put new formatting in force: behind the bookmark, or in place of the old one. -/
def placeFormatting (b : Builder) (bookmark : Option Nat) (old : Nat) (entry : Formatting) :
    Builder :=
  match bookmark with
  | none => b.replaceFormatting old entry
  | some id =>
    let isBookmark := fun entry => Formatting.id? entry = some id
    let later := b.formatting.takeWhile (!isBookmark ·)
    let rest := b.formatting.dropWhile (!isBookmark ·)
    { b with formatting := later ++ entry :: rest }.removeFormatting old

/-- Take a block out of a formatting element. The open elements are those above the block,
innermost first, the block, those between the two, the formatting element and those around it. -/
def takeOut (b : Builder) (inner : List OpenElement) (block : OpenElement)
    (between : List OpenElement) (element : OpenElement) (around : List OpenElement) (tag : Tag) :
    Builder :=
  let w := walkOut block.id { builder := b, moving := block.id } between 1
  let b := { w.builder with draft := w.builder.draft.detach w.moving }
  -- What the walk has come to moves to where the formatting element is.
  let b := b.putNode (b.placeIn (around.headD ⟨0, .html ""⟩)) w.moving
  -- The new element takes over what is in the block.
  let (draft, id) := b.draft.addElement (.html tag.name) tag.attributes
  let draft := (draft.moveChildren block.id id).append block.id id
  let b := { b with draft }.placeFormatting w.bookmark element.id (.element id tag)
  { b with stack := inner ++ ⟨id, .html tag.name⟩ :: block :: w.kept ++ around }

/-- One round for the end tag of formatting; the answer tells whether another round follows. -/
def closeFormattingOnce (b : Builder) (tag : String) : Builder × Bool :=
  let entry := b.recentFormatting.findSome? fun
    | .marker => none
    | .element id t => if t.name = tag then some (id, t) else none
  match entry with
  | none => (b.closeGeneric tag, false)
  | some (id, t) =>
    let inside := b.stack.takeWhile (·.id ≠ id)
    match b.stack.dropWhile (·.id ≠ id) with
    | [] => ((b.report .formattingNotOpen).removeFormatting id, false)
    | element :: around =>
      if !findsInScope (·.boundsScope) (·.id = id) b.stack then
        (b.report .formattingNotInScope, false)
      else
        let b := if b.current.id = id then b else b.report .formattingNotCurrent
        match inside.reverse.dropWhile (!·.name.isSpecial) with
        -- Without a block inside, the formatting ends with all that is open in it.
        | [] => ({ b with stack := around }.removeFormatting id, false)
        | block :: inner =>
          let between := (inside.reverse.takeWhile (!·.name.isSpecial)).reverse
          (b.takeOut inner.reverse block between element around t, true)

/-- As many rounds for the end tag of formatting as are needed, but not more than given. -/
def closeFormattingRounds (tag : String) : Nat → Builder → Builder
  | 0, b => b
  | rounds + 1, b =>
    let (b, more) := b.closeFormattingOnce tag
    if more then closeFormattingRounds tag rounds b else b

/-- The end tag of a formatting element. -/
def closeFormatting (b : Builder) (tag : String) : Builder :=
  if b.current.name = .html tag && (b.formattingTag? b.current.id).isNone then b.pop
  else closeFormattingRounds tag 8 b

/-- A link begins. Links do not nest: one that is in force ends here. -/
def endAnchor (b : Builder) : Builder :=
  let entry := b.recentFormatting.findSome? fun
    | .marker => none
    | .element id t => if t.name = "a" then some id else none
  match entry with
  | none => b
  | some id => ((b.unexpected.closeFormatting "a").removeFormatting id).removeOpen id

end Builder

end HtmlText
