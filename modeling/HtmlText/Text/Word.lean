import HtmlText.Text.CodeRange
import HtmlText.Text.WordTable

/-!
# Word characters and word ends

A name in the source, such as `html` or `charset`, counts only when no word character follows it:
`<header>` does not contain the tag name `head`.

## Main definitions

* `isWordChar`: letters, marks, decimal digits, connectors and joiners.
* `atWordEnd`: the rest of an input does not continue a word.
-/

namespace HtmlText

/-- A character that makes up words. -/
def isWordChar (c : Char) : Bool := inRanges wordRanges c.toNat

/-- After a word character, the word is complete when what follows does not continue it. -/
def atWordEnd (rest : List Char) : Bool :=
  match rest with
  | [] => true
  | c :: _ => !isWordChar c

@[simp] theorem atWordEnd_nil : atWordEnd [] = true := rfl

@[simp] theorem atWordEnd_cons (c : Char) (cs : List Char) :
    atWordEnd (c :: cs) = !isWordChar c := rfl

end HtmlText
