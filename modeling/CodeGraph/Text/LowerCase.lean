import CodeGraph.Text.CaseTable
import CodeGraph.Text.Ranges

/-!
# Lower case

Every capital letter has its small letter, the dotted capital I a small one with a dot above. The
capital sigma has two: the final one at the end of a word, the other one elsewhere. Where a word
ends is seen from the letters around it; marks and apostrophes are passed over.

Main definitions:

- `lowerCase`: a text in small letters.
-/
namespace CodeGraph.Text

/-- Whether a character is a letter that has case. -/
def isCased (c : Char) : Bool := inRanges casedRanges c.toNat

/-- Whether a character says nothing about the case around it. -/
def isCaseIgnorable (c : Char) : Bool := inRanges caseIgnorableRanges c.toNat

/-- The small letter in a table of ranges. -/
def smallLetter? (n : Nat) : List (Nat × Nat × Nat × Nat) → Option Nat
  | [] => none
  | (first, last, stride, small) :: rest =>
    if n < first then none
    else if n ≤ last then if (n - first) % stride = 0 then some (small + (n - first)) else none
    else smallLetter? n rest

/-- The small letter of a character, whatever stands around it. -/
def lowerChar (c : Char) : List Char :=
  if c = 'İ' then ['i', '\u0307']
  else match smallLetter? c.toNat capitalRanges with
    | some n => [Char.ofNat n]
    | none => [c]

/-- Whether the next letter of a text has case. -/
def startsCased (cs : List Char) : Bool :=
  (cs.dropWhile isCaseIgnorable).head?.any isCased

/-- A text in small letters, given whether the last letter before it has case. -/
def lowerFrom (cased : Bool) : List Char → List Char
  | [] => []
  | c :: cs =>
    (if c = 'Σ' then [if cased && !startsCased cs then 'ς' else 'σ'] else lowerChar c) ++
      lowerFrom (if isCaseIgnorable c then cased else isCased c) cs

/-- A text in small letters. -/
def lowerCase (cs : List Char) : List Char := lowerFrom false cs

end CodeGraph.Text
