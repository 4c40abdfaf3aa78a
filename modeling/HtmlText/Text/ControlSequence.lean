/-!
# Control sequences

Texts from outside may hold characters that a terminal would obey instead of showing them: control
characters, and sequences that an escape character begins. A report shows such texts without them.
Blank control characters stay: tab, line feed, form feed and carriage return.

## Main definitions

* `ControlState`: how far a sequence has been read.
* `dropControl`: a text without control characters and sequences.
-/

namespace HtmlText

/-- How far a control sequence has been read. -/
inductive ControlState
  /-- Outside of sequences. -/
  | outside
  /-- Behind the escape character. -/
  | escape
  /-- Behind the escape character and marks, up to the character that ends the sequence. -/
  | marks
  /-- Among parameters, up to the letter that ends the sequence. -/
  | parameters
  /-- In a text for the terminal, up to a bell. -/
  | title
  /-- In a text for the terminal that only another control character ends. -/
  | string
deriving Repr, DecidableEq

/-- The control characters that are blanks of a text. -/
def isBlankControl (c : Char) : Bool := c = '\t' || c = '\n' || c = '\x0c' || c = '\r'

/-- Whether a character lies between two others, which count. -/
def isBetween (first last c : Char) : Bool := first ≤ c && c ≤ last

namespace ControlState

/-- Whether a character is shown. -/
def shows (st : ControlState) (c : Char) : Bool :=
  match st with
  | outside => (' ' ≤ c && c ≠ '\x7f') || isBlankControl c
  | escape | marks | parameters => isBlankControl c
  | title | string => false

/-- The state behind the escape character and one more character. -/
def afterEscape (c : Char) : ControlState :=
  if c = '[' then parameters
  else if c = ']' then title
  else if c = 'P' || c = 'X' || c = '^' || c = '_' then string
  else if isBetween ' ' '/' c then marks
  else if isBetween '0' '~' c || isBlankControl c then outside
  else escape

/-- The state behind a character. A new escape character begins a new sequence, whatever there was
before it. -/
def next (st : ControlState) (c : Char) : ControlState :=
  if c = '\x1b' then escape
  else if c = '\x18' || c = '\x1a' then outside
  else
    match st with
    | outside => outside
    | escape => afterEscape c
    | marks => if isBetween '0' '~' c || isBlankControl c then outside else marks
    | parameters => if isBetween '@' '~' c || isBlankControl c then outside else parameters
    | title => if c = '\x07' then outside else title
    | string => string

/-- The characters that are shown. -/
def shown (st : ControlState) : List Char → List Char
  | [] => []
  | c :: cs => if st.shows c then c :: (st.next c).shown cs else (st.next c).shown cs

end ControlState

/-- A text without control characters and sequences. -/
def dropControl (s : String) : String := String.ofList (ControlState.outside.shown s.toList)

end HtmlText
