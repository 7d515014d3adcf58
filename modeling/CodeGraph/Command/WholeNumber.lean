import CodeGraph.Document.Fault
import CodeGraph.Text.Blank
import CodeGraph.Text.Numeral

/-!
# Whole numbers on a command line

The value of an option that takes a number is a whole number in ASCII digits. Blanks may stand
around it and a sign in front of it, single underscores between its digits, and a fraction of
nothing but zeros behind it. Zeros in front of the number say nothing; among them underscores may
stand in any number.

Main definitions:

- `WholeNumber.read?`: the number that a text denotes.
-/
namespace CodeGraph.WholeNumber

/-- Whether a character may stand around a number: a blank, but none of the field separators. -/
def isPadding (c : Char) : Bool := Text.isBlank c && !(0x1c ≤ c.toNat && c.toNat ≤ 0x1f)

/-- A sign, if there is one, and what follows it. The flag tells whether it is a minus. -/
def sign : List Char → Bool × List Char
  | '-' :: cs => (true, cs)
  | '+' :: cs => if cs.head? = some '-' then (false, '+' :: cs) else (false, cs)
  | cs => (false, cs)

/-- What stands behind zeros and underscores, given the last one of these. One character of them
stays where nothing but a fraction follows. -/
def dropZerosFrom? (last : Char) : List Char → Option (List Char)
  | [] => some [last]
  | c :: cs =>
    if c = '.' then some (last :: c :: cs)
    else if c = '0' ∨ c = '_' then dropZerosFrom? c cs
    else if Text.isDecimal c then some (c :: cs)
    else none

/-- A text that starts with a digit, without the zeros in front. -/
def dropZeros? : List Char → Option (List Char)
  | [] => none
  | c :: cs =>
    if c = '0' then dropZerosFrom? c cs else if Text.isDecimal c then some (c :: cs) else none

/-- A text without a fraction of nothing but zeros. -/
def dropFraction (cs : List Char) : List Char :=
  match cs.dropWhile (· != '.') with
  | _ :: d :: ds =>
    if (d :: ds).all (· == '0') then cs.takeWhile (· != '.') else cs
  | _ => cs

/-- The digits of a number, without the single underscores between them. -/
def digits? : List Char → Option (List Char)
  | [] => none
  | [c] => if Text.isDecimal c then some [c] else none
  | c :: '_' :: cs => if Text.isDecimal c then (digits? cs).map (c :: ·) else none
  | c :: cs => if Text.isDecimal c then (digits? cs).map (c :: ·) else none

/-- The number that a text denotes. With its minus sign it may be as long as the longest run of
digits that is converted. -/
def read? (s : String) : Option Int := do
  let (negative, cs) := sign (Text.trimWhile isPadding s.toList)
  let digits ← (dropZeros? cs).bind fun ds => digits? (dropFraction ds)
  if maxDigits < digits.length + (if negative then 1 else 0) then none
  else
    let n : Int := Text.decimalValue digits
    return if negative then -n else n

end CodeGraph.WholeNumber
