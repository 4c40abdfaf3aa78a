import HtmlText.Markup.Problem
import HtmlText.Markup.Reference.CapitalNames
import HtmlText.Markup.Reference.SmallNames

/-!
# Character references

An ampersand in a source may begin a character reference: a number sign and a number, or a name.
Of the names that fit, the longest counts. Some names may stand without a semicolon, which is a
problem; inside an attribute value they then count only if no letter, digit or equals sign follows,
and are no problem. An ampersand that begins no reference stands for itself.

A reader that has looked for a name hands back the characters that it did not use. They form a run
of text of their own, so the number of characters that were looked at is part of the answer.

## Main definitions

* `Reference`: what an ampersand comes to.
* `Reference.read`: the reference at the beginning of the characters behind an ampersand.
* `namesFrom`: the names with a given first letter.
* `numberMeaning`: the character with a given number.
-/

namespace HtmlText

/-- The names that begin with a character, each as what follows it and what the name stands for. -/
def namesFrom : Char → List (String × List Nat)
  | 'A' => namesCapitalA
  | 'B' => namesCapitalB
  | 'C' => namesCapitalC
  | 'D' => namesCapitalD
  | 'E' => namesCapitalE
  | 'F' => namesCapitalF
  | 'G' => namesCapitalG
  | 'H' => namesCapitalH
  | 'I' => namesCapitalI
  | 'J' => namesCapitalJ
  | 'K' => namesCapitalK
  | 'L' => namesCapitalL
  | 'M' => namesCapitalM
  | 'N' => namesCapitalN
  | 'O' => namesCapitalO
  | 'P' => namesCapitalP
  | 'Q' => namesCapitalQ
  | 'R' => namesCapitalR
  | 'S' => namesCapitalS
  | 'T' => namesCapitalT
  | 'U' => namesCapitalU
  | 'V' => namesCapitalV
  | 'W' => namesCapitalW
  | 'X' => namesCapitalX
  | 'Y' => namesCapitalY
  | 'Z' => namesCapitalZ
  | 'a' => namesSmallA
  | 'b' => namesSmallB
  | 'c' => namesSmallC
  | 'd' => namesSmallD
  | 'e' => namesSmallE
  | 'f' => namesSmallF
  | 'g' => namesSmallG
  | 'h' => namesSmallH
  | 'i' => namesSmallI
  | 'j' => namesSmallJ
  | 'k' => namesSmallK
  | 'l' => namesSmallL
  | 'm' => namesSmallM
  | 'n' => namesSmallN
  | 'o' => namesSmallO
  | 'p' => namesSmallP
  | 'q' => namesSmallQ
  | 'r' => namesSmallR
  | 's' => namesSmallS
  | 't' => namesSmallT
  | 'u' => namesSmallU
  | 'v' => namesSmallV
  | 'w' => namesSmallW
  | 'x' => namesSmallX
  | 'y' => namesSmallY
  | 'z' => namesSmallZ
  | _ => []

/-- What an ampersand comes to. -/
structure Reference where
  /-- What is wrong with the reference. -/
  problems : List Problem
  /-- The characters that it stands for. -/
  expansion : List Char
  /-- The number of characters behind the ampersand that belong to it. -/
  length : Nat
  /-- The number of characters behind those that were looked at and handed back. -/
  handedBack : Nat
deriving Repr, DecidableEq

namespace Reference

/-- An ampersand that stands for itself. -/
def literal (problems : List Problem) (handedBack : Nat) : Reference :=
  ⟨problems, ['&'], 0, handedBack⟩

/-! ### Numbers -/

/-- The characters that the numbers from 128 to 159 stand for, where they are no control
characters. -/
def controlReplacements : List (Nat × Nat) := [
  (0x80, 0x20AC), (0x82, 0x201A), (0x83, 0x192), (0x84, 0x201E), (0x85, 0x2026), (0x86, 0x2020),
  (0x87, 0x2021), (0x88, 0x2C6), (0x89, 0x2030), (0x8A, 0x160), (0x8B, 0x2039), (0x8C, 0x152),
  (0x8E, 0x17D), (0x91, 0x2018), (0x92, 0x2019), (0x93, 0x201C), (0x94, 0x201D), (0x95, 0x2022),
  (0x96, 0x2013), (0x97, 0x2014), (0x98, 0x2DC), (0x99, 0x2122), (0x9A, 0x161), (0x9B, 0x203A),
  (0x9C, 0x153), (0x9E, 0x17E), (0x9F, 0x178)]

/-- The replacement character. -/
def replacement : Char := '\uFFFD'

/-- The character with a given number, and whether the number may be used. -/
def numberMeaning (n : Nat) : Char × Bool :=
  if n = 0 || 0x10FFFF < n || (0xD800 ≤ n && n ≤ 0xDFFF) then (replacement, false)
  else if 0x80 ≤ n && n ≤ 0x9F then (.ofNat ((controlReplacements.lookup n).getD n), false)
  else
    let control := n ≤ 0x08 || n = 0x0B || (0x0D ≤ n && n ≤ 0x1F) || n = 0x7F
    let noncharacter := (0xFDD0 ≤ n && n ≤ 0xFDEF) || 0xFFFE ≤ n % 0x10000
    (.ofNat n, !control && !noncharacter)

/-- The value of a digit in any base up to sixteen. -/
def digitValue (c : Char) : Nat :=
  if c.isDigit then c.toNat - '0'.toNat
  else if 'a' ≤ c && c ≤ 'f' then c.toNat - 'a'.toNat + 10
  else c.toNat - 'A'.toNat + 10

/-- A hexadecimal digit. -/
def isHexDigit (c : Char) : Bool :=
  c.isDigit || ('a' ≤ c && c ≤ 'f') || ('A' ≤ c && c ≤ 'F')

/-- The number written by digits in the given base. -/
def numberOfDigits (base : Nat) (digits : List Char) : Nat :=
  digits.foldl (fun n c => n * base + digitValue c) 0

/-- The reference to a number whose digits follow `marker` characters behind the ampersand. -/
def readDigits (marker base : Nat) (isDigit : Char → Bool) (cs : List Char) : Reference :=
  let digits := cs.takeWhile isDigit
  if digits.isEmpty then literal [.numberWithoutDigits] marker
  else
    let (ending, used) :=
      match cs.dropWhile isDigit with
      | [] => ([Problem.endInNumber], 0)
      | c :: _ => if c = ';' then ([], 1) else ([.numberWithoutSemicolon], 0)
    let (c, valid) := numberMeaning (numberOfDigits base digits)
    ⟨ending ++ (if valid then [] else [.invalidNumber]), [c], marker + digits.length + used, 0⟩

/-- The reference behind an ampersand and a number sign. -/
def readNumber : List Char → Reference
  | [] => literal [.endAfterNumberSign] 1
  | c :: cs =>
    if c = 'x' || c = 'X' then readDigits 2 16 isHexDigit cs
    else readDigits 1 10 Char.isDigit (c :: cs)

/-! ### Names -/

/-- The longest name met so far. -/
structure Hit where
  codes : List Nat
  length : Nat
  closed : Bool
deriving Repr, DecidableEq

/-- What is left of the names that go on with a character. -/
def narrow (c : Char) (names : List (List Char × List Nat)) : List (List Char × List Nat) :=
  names.filterMap fun
    | (d :: name, codes) => if d = c then some (name, codes) else none
    | ([], _) => none

/-- Follow the characters as long as they may be part of a name. The answer holds the longest name
met, the number of characters followed and what comes behind them. -/
def follow (names : List (List Char × List Nat)) (hit : Option Hit) (looked : Nat) :
    List Char → Option Hit × Nat × List Char
  | [] => (hit, looked, [])
  | c :: cs =>
    match narrow c names with
    | [] => (hit, looked, c :: cs)
    | left =>
      let hit := match left.find? (·.1.isEmpty) with
        | some (_, codes) => some ⟨codes, looked + 1, c = ';'⟩
        | none => hit
      follow left hit (looked + 1) cs

/-- All names that begin with a letter, where the letter itself is followed already. -/
def candidates (c : Char) : List (List Char × List Nat) :=
  (namesFrom c).map fun (name, codes) => (name.toList, codes)

/-- The characters looked at in the search for a name that there is not, and whether the search
ended with a semicolon. -/
def unknownExtent (looked : Nat) : List Char → Nat × Bool
  | [] => (looked, false)
  | c :: cs =>
    if c.isAlphanum then unknownExtent (looked + 1) cs else (looked + 1, c = ';')

/-- The reference by a name; the characters begin with a letter or a digit. -/
def readName (inAttribute : Bool) (cs : List Char) : Reference :=
  let (hit, looked, rest) :=
    match cs with
    | [] => (none, 0, [])
    | c :: after =>
      match candidates c with
      | [] => (none, 0, cs)
      | names => follow names none 1 after
  match hit with
  | none =>
    let (looked, closed) := unknownExtent looked rest
    literal (if closed then [.unknownName] else []) looked
  | some hit =>
    -- The character that no name goes on with has been looked at too.
    let looked := if rest.isEmpty then looked else looked + 1
    let reference (problems : List Problem) : Reference :=
      ⟨problems, hit.codes.map Char.ofNat, hit.length, looked - hit.length⟩
    if hit.closed then reference []
    else
      let goesOn := match cs.drop hit.length with
        | [] => false
        | c :: _ => c = '=' || c.isAlphanum
      -- In the value of an attribute this may as well be the query of an address.
      if inAttribute && goesOn then literal [] looked else reference [.nameWithoutSemicolon]

/-- The reference at the beginning of the characters behind an ampersand. -/
def read (inAttribute : Bool) : List Char → Reference
  | [] => literal [] 0
  | c :: cs =>
    if c = '#' then readNumber cs
    else if c.isAlphanum then readName inAttribute (c :: cs)
    else literal [] 0

end Reference

end HtmlText
