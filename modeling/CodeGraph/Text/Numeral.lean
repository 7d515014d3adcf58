/-!
# Numerals

The digits of the decimal and the hexadecimal system in ASCII, read and written.
-/
namespace CodeGraph.Text

/-- Whether a character is one of the ten ASCII digits. -/
def isDecimal (c : Char) : Bool := '0' ≤ c && c ≤ '9'

/-- The value of a hexadecimal digit. -/
def hexValue? (c : Char) : Option Nat :=
  let n := c.toNat
  if 0x30 ≤ n ∧ n ≤ 0x39 then some (n - 0x30)
  else if 0x41 ≤ n ∧ n ≤ 0x46 then some (n - 0x37)
  else if 0x61 ≤ n ∧ n ≤ 0x66 then some (n - 0x57)
  else none

/-- Whether a character is a hexadecimal digit. -/
def isHex (c : Char) : Bool := (hexValue? c).isSome

/-- The number that digits denote in a number system. Characters that are no digits count as
zero. -/
def radixValue (radix : Nat) (cs : List Char) : Nat :=
  cs.foldl (fun n c => radix * n + (hexValue? c).getD 0) 0

/-- The number that decimal digits denote. -/
def decimalValue (cs : List Char) : Nat := radixValue 10 cs

/-- The number that hexadecimal digits denote, if all the characters are such digits. -/
def hexNumber? (cs : List Char) : Option Nat :=
  if cs.all isHex then some (radixValue 16 cs) else none

/-- A hexadecimal digit in lower case. -/
def hexDigit (n : Nat) : Char :=
  if n < 10 then Char.ofNat (0x30 + n) else Char.ofNat (0x57 + n)

/-- The last digits of a number in hexadecimal, as many as asked for. -/
def hexDigits : Nat → Nat → List Char
  | 0, _ => []
  | width + 1, n => hexDigits width (n / 16) ++ [hexDigit (n % 16)]

end CodeGraph.Text
