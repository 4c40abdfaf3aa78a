import HtmlText.Text.CodeRange
import HtmlText.Text.CasingTable

/-!
# Upper and lower case

Full Unicode case mapping of texts. Upper case maps each character by itself, some to several
characters. Lower case does the same, except that a capital sigma becomes a final sigma where it
ends a word.

## Main definitions

* `upperChar`, `lowerChar`: the mappings of one character.
* `upper`, `lower`: the mappings of a text.
* `endsCasedWord`: the condition for a final sigma.
-/

namespace HtmlText

/-- The code point that a table of shifts assigns to `n`, if any. -/
def shiftCase : List CaseShift → Nat → Option Nat
  | [], _ => none
  | s :: shifts, n =>
    if n < s.first then none
    else if n ≤ s.last then
      if (n - s.first) % s.stride = 0 then some (s.target + (n - s.first)) else none
    else shiftCase shifts n

/-- One character under a case mapping given by shifts and expansions; a character outside the
tables is its own image. -/
def mapCase (shifts : List CaseShift) (expansions : List (Nat × List Nat)) (c : Char) :
    List Char :=
  match shiftCase shifts c.toNat with
  | some n => [Char.ofNat n]
  | none =>
    match expansions.lookup c.toNat with
    | some ns => ns.map Char.ofNat
    | none => [c]

/-- The upper case of one character. -/
def upperChar (c : Char) : List Char := mapCase upperShifts upperExpansions c

/-- The lower case of one character, taken by itself. -/
def lowerChar (c : Char) : List Char := mapCase lowerShifts lowerExpansions c

/-- The upper case of a text. -/
def upper (s : String) : String := String.ofList (s.toList.flatMap upperChar)

/-- A character that has a case. -/
def isCased (c : Char) : Bool := inRanges casedRanges c.toNat

/-- A character that is passed over in the search for a cased neighbour. -/
def isCaseIgnorable (c : Char) : Bool := inRanges caseIgnorableRanges c.toNat

/-- The nearest character that is not passed over has a case. -/
def meetsCased (cs : List Char) : Bool :=
  match cs.dropWhile isCaseIgnorable with
  | [] => false
  | c :: _ => isCased c

/-- A sigma between `before` (nearest character first) and `after` ends a word: there is a cased
character before it and none after it. -/
def endsCasedWord (before after : List Char) : Bool := meetsCased before && !meetsCased after

/-- The lower case of a text that follows the characters `before`, nearest first. -/
def lowerFrom (before : List Char) : List Char → List Char
  | [] => []
  | c :: cs =>
    (if c = 'Σ' then [if endsCasedWord before cs then 'ς' else 'σ'] else lowerChar c) ++
      lowerFrom (c :: before) cs

/-- The lower case of a text. -/
def lower (s : String) : String := String.ofList (lowerFrom [] s.toList)

@[simp] theorem toList_upper (s : String) : (upper s).toList = s.toList.flatMap upperChar := by
  simp [upper]

@[simp] theorem toList_lower (s : String) : (lower s).toList = lowerFrom [] s.toList := by
  simp [lower]

/-- Upper case maps the parts of a text independently. -/
theorem upper_append (s t : String) : upper (s ++ t) = upper s ++ upper t := by
  apply String.toList_inj.mp
  simp

end HtmlText
