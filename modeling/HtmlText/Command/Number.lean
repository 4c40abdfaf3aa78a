/-!
# Numbers in arguments

Numbers that the user gives are written in decimal digits, with a plus sign or without, and have to
fit into 64 bits.

## Main definitions

* `NumberError`: what may be wrong with a number.
* `readNumber`: the number that a text writes.
-/

namespace HtmlText

/-- What may be wrong with a number. -/
inductive NumberError
  | empty
  | invalidDigit
  | tooLarge
deriving Repr, DecidableEq

/-- The text of the error. -/
def NumberError.message : NumberError → String
  | empty => "cannot parse integer from empty string"
  | invalidDigit => "invalid digit found in string"
  | tooLarge => "number too large to fit in target type"

/-- Numbers are less than this: they fit into 64 bits. -/
def numberBound : Nat := 0x10000000000000000

/-- The number written by digits that follow those of `n`. The first fault counts. -/
def readDigitsBelow (bound n : Nat) : List Char → Except NumberError Nat
  | [] => .ok n
  | c :: cs =>
    if c.isDigit then
      let n := 10 * n + (c.toNat - '0'.toNat)
      if n < bound then readDigitsBelow bound n cs else .error .tooLarge
    else .error .invalidDigit

/-- The number that a text writes in decimal digits, with or without a plus sign. -/
def readNumber (cs : List Char) : Except NumberError Nat :=
  match cs with
  | [] => .error .empty
  | ['+'] => .error .invalidDigit
  | '+' :: digits => readDigitsBelow numberBound 0 digits
  | digits => readDigitsBelow numberBound 0 digits

end HtmlText
