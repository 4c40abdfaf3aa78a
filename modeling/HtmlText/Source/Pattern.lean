import HtmlText.Text.Blank
import HtmlText.Text.Search
import HtmlText.Text.Word

/-!
# Reading the beginning of a source

Before a source is parsed, a few declarations are recognised in it by their look alone: a keyword
in any case, up to a word end, up to a closing bracket. Each reader takes the characters of a
source and gives what is left behind the construct, or nothing if the source does not begin with
it.

## Main definitions

* `dropKeyword?`: behind a keyword in any case.
* `dropTag?`: behind a tag with a given name.
-/

namespace HtmlText

/-- A character matches a small letter in either case. The long s and the Kelvin sign are case
variants of `s` and `k`. -/
def matchesLetter (letter c : Char) : Bool :=
  c.toLower = letter || (letter = 's' && c = '\u017F') || (letter = 'k' && c = '\u212A')

/-- Behind a keyword, written in small letters, that the source has in any case. -/
def dropKeyword? : List Char → List Char → Option (List Char)
  | [], cs => some cs
  | _ :: _, [] => none
  | letter :: keyword, c :: cs => if matchesLetter letter c then dropKeyword? keyword cs else none

/-- Behind a keyword that no word character follows. -/
def dropWord? (word : String) (cs : List Char) : Option (List Char) :=
  match dropKeyword? word.toList cs with
  | some rest => if atWordEnd rest then some rest else none
  | none => none

/-- Behind the next closing bracket. -/
def dropThroughBracket? : List Char → Option (List Char)
  | [] => none
  | c :: cs => if c = '>' then some cs else dropThroughBracket? cs

/-- Behind a tag with the given name. It ends at the first closing bracket, also when that stands
inside a quoted value. -/
def dropTag? (name : String) (cs : List Char) : Option (List Char) :=
  match dropWord? ("<" ++ name) cs with
  | some rest => dropThroughBracket? rest
  | none => none

/-- Behind the leading `White_Space` characters. -/
def dropBlanks (cs : List Char) : List Char := cs.dropWhile isUnicodeBlank

end HtmlText
