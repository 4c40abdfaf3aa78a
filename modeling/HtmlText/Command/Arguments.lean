import HtmlText.Command.Number
import HtmlText.Text.ControlSequence

/-!
# Arguments of the command line

The command takes flags, options with a value, and the name of an input file. Options may be given
once each. A value stands behind an equals sign or in the next argument, where it must not look like
an option. An option that still waits for its value, and a value that has not been looked at, are
settled as soon as the next option or file name comes up.

## Main definitions

* `Settings`: what the arguments say.
* `Request`: what is to be done.
* `UsageError`: what may be wrong with arguments, with its text `UsageError.message`.
* `Request.ofArguments`: the request of a list of arguments.
-/

namespace HtmlText

/-- What the arguments say. -/
structure Settings where
  verbosity : Nat := 0
  lenient : Bool := false
  ruleWidth : Nat := 79
  tabWidth : Nat := 4
  output : Option String := none
  input : Option String := none
deriving Repr, DecidableEq

/-- What is to be done. -/
inductive Request
  | help
  | version
  | convert (s : Settings)
deriving Repr, DecidableEq

/-- What takes a value. -/
inductive Slot
  | ruleWidth
  | tabWidth
  | output
  | input
deriving Repr, DecidableEq

/-- How a slot is named to the user. -/
def Slot.usage : Slot → String
  | ruleWidth => "--rule-width <RULE_WIDTH>"
  | tabWidth => "--tab-width <TAB_WIDTH>"
  | output => "--output <FILE>"
  | input => "[INPUT]"

/-- What may be wrong with arguments. -/
inductive UsageError
  | unexpectedArgument (argument : String)
  | invalidValue (value : String) (slot : Slot) (reason : NumberError)
  | missingValue (slot : Slot)
  | repeated (usage : String)
  | unexpectedValue (value flag : String)
deriving Repr, DecidableEq

/-- The text of the error. What the user wrote is shown without control characters. -/
def UsageError.message : UsageError → String
  | unexpectedArgument argument => s!"error: unexpected argument '{dropControl argument}' found"
  | invalidValue value slot reason =>
    s!"error: invalid value '{dropControl value}' for '{slot.usage}': {reason.message}"
  | missingValue slot =>
    s!"error: a value is required for '{slot.usage}' but none was supplied"
  | repeated usage => s!"error: the argument '{usage}' cannot be used multiple times"
  | unexpectedValue value flag =>
    s!"error: unexpected value '{dropControl value}' for '{flag}' found; no more were expected"

/-! ### Reading arguments -/

/-- The arguments as far as they are read. -/
structure ArgumentState where
  settings : Settings := {}
  /-- The slots that have their value. -/
  filled : List Slot := []
  /-- A slot that waits for its value, or for the value to be looked at. -/
  pending : Option (Slot × Option String) := none
  /-- The input file has been named. -/
  inputNamed : Bool := false
deriving Repr, DecidableEq

namespace ArgumentState

/-- The settings with the value of a slot. -/
def assign (s : Settings) (slot : Slot) (value : String) : Except UsageError Settings :=
  let width (set : Nat → Settings) : Except UsageError Settings :=
    match readNumber value.toList with
    | .ok n => .ok (set n)
    | .error reason => .error (.invalidValue value slot reason)
  let path (set : String → Settings) : Except UsageError Settings :=
    if value = "" then .error (.missingValue slot) else .ok (set value)
  match slot with
  | .ruleWidth => width fun n => { s with ruleWidth := n }
  | .tabWidth => width fun n => { s with tabWidth := n }
  | .output => path fun file => { s with output := some file }
  | .input => path fun file => { s with input := some file }

/-- Give a slot its value. -/
def fill (st : ArgumentState) (slot : Slot) (value : String) : Except UsageError ArgumentState :=
  if st.filled.contains slot then .error (.repeated slot.usage)
  else
    match assign st.settings slot value with
    | .ok settings => .ok { st with settings, filled := slot :: st.filled }
    | .error e => .error e

/-- Settle what is pending. -/
def settle (st : ArgumentState) : Except UsageError ArgumentState :=
  match st.pending with
  | none => .ok st
  | some (slot, none) => .error (.missingValue slot)
  | some (slot, some value) => { st with pending := none }.fill slot value

/-- The flag that turns strictness off. -/
def makeLenient (st : ArgumentState) : Except UsageError ArgumentState :=
  if st.settings.lenient then .error (.repeated "--lenient")
  else .ok { st with settings := { st.settings with lenient := true } }

/-- The flag that has more reported. It may be given again and again. -/
def makeVerbose (st : ArgumentState) : ArgumentState :=
  { st with settings := { st.settings with verbosity := st.settings.verbosity + 1 } }

/-- An argument that is a value or names the input file. -/
def takeValue (st : ArgumentState) (onlyFiles : Bool) (argument : String) :
    Except UsageError ArgumentState :=
  match st.pending, onlyFiles with
  | some (slot, none), false => .ok { st with pending := some (slot, some argument) }
  | _, _ =>
    if st.inputNamed then .error (.unexpectedArgument argument)
    else
      match st.settle with
      | .ok st => .ok { st with pending := some (.input, some argument), inputNamed := true }
      | .error e => .error e

end ArgumentState

/-- What reading an argument leads to: to the next argument, or to a request that needs no more of
them. -/
abbrev ArgumentStep := Except UsageError (ArgumentState ⊕ Request)

namespace ArgumentState

/-- An option with a value of its own, or without. -/
def takeOption (st : ArgumentState) (slot : Slot) (value : Option String) : ArgumentStep :=
  match st.settle with
  | .error e => .error e
  | .ok st =>
    match value with
    | none => .ok (.inl { st with pending := some (slot, none) })
    | some value => (st.fill slot value).map Sum.inl

/-- A flag, after what is pending. -/
def takeFlag (st : ArgumentState)
    (next : ArgumentState → Except UsageError (ArgumentState ⊕ Request)) : ArgumentStep :=
  match st.settle with
  | .error e => .error e
  | .ok st => next st

/-- A flag given by its long name, which takes no value. -/
def takeLongFlag (st : ArgumentState) (usage : String) (value : Option String)
    (next : ArgumentState → Except UsageError (ArgumentState ⊕ Request)) : ArgumentStep :=
  match value with
  | some value => .error (.unexpectedValue value usage)
  | none => st.takeFlag next

/-- An argument that begins with two dashes. -/
def takeLong (st : ArgumentState) (name : String) (value : Option String) : ArgumentStep :=
  if name = "rule-width" then st.takeOption .ruleWidth value
  else if name = "tab-width" then st.takeOption .tabWidth value
  else if name = "output" then st.takeOption .output value
  else if name = "lenient" then
    st.takeLongFlag "--lenient" value fun st => st.makeLenient.map Sum.inl
  else if name = "verbose" then
    st.takeLongFlag "--verbose..." value fun st => .ok (.inl st.makeVerbose)
  else if name = "help" then st.takeLongFlag "--help" value fun _ => .ok (.inr .help)
  else if name = "version" then st.takeLongFlag "--version" value fun _ => .ok (.inr .version)
  else .error (.unexpectedArgument ("--" ++ name))

/-- The letters of an argument that begins with one dash. -/
def takeShort (st : ArgumentState) : List Char → ArgumentStep
  | [] => .ok (.inl st)
  | c :: cs =>
    if c = 'v' then
      match st.settle with
      | .error e => .error e
      | .ok st => st.makeVerbose.takeShort cs
    else if c = 'o' then
      match cs with
      | [] => st.takeOption .output none
      | '=' :: value => st.takeOption .output (some (String.ofList value))
      | value => st.takeOption .output (some (String.ofList value))
    else if c = 'h' then st.takeFlag fun _ => .ok (.inr .help)
    else if c = 'V' then st.takeFlag fun _ => .ok (.inr .version)
    else .error (.unexpectedArgument (String.ofList ['-', c]))

/-- The name and the value of an argument with an equals sign, and the name of one without. -/
def splitValue (cs : List Char) : String × Option String :=
  (String.ofList (cs.takeWhile (· ≠ '=')),
    match cs.dropWhile (· ≠ '=') with
    | [] => none
    | _ :: value => some (String.ofList value))

/-- One argument before the end of the options. -/
def take (st : ArgumentState) (argument : String) : ArgumentStep :=
  match argument.toList with
  | '-' :: '-' :: name => st.takeLong (splitValue name).1 (splitValue name).2
  | '-' :: c :: cs => st.takeShort (c :: cs)
  | _ => (st.takeValue false argument).map Sum.inl

/-- The rest of the arguments. Behind two dashes all of them name files. -/
def takeAll (st : ArgumentState) (onlyFiles : Bool) : List String → Except UsageError Request
  | [] => st.settle.map fun st => .convert st.settings
  | argument :: arguments =>
    if onlyFiles then
      match st.takeValue true argument with
      | .ok st => st.takeAll true arguments
      | .error e => .error e
    else if argument = "--" then st.takeAll true arguments
    else
      match st.take argument with
      | .ok (.inl st) => st.takeAll false arguments
      | .ok (.inr request) => .ok request
      | .error e => .error e

end ArgumentState

/-- The request of a list of arguments. -/
def Request.ofArguments (arguments : List String) : Except UsageError Request :=
  ({} : ArgumentState).takeAll false arguments

end HtmlText
