import CodeGraph.Document.Fault
import CodeGraph.Text.Numeral
import CodeGraph.Toml.Basic

/-!
# TOML: numbers

Whole numbers are decimal, or hexadecimal, octal or binary behind a mark. A fraction or an exponent
makes a number a double. Single underscores may stand between digits. Infinity and the value that is
no number go by their names.
-/
namespace CodeGraph.Toml

/-- A run of digits and the rest, given that the text before it ends in a digit. An underscore
counts as part of the run when a digit follows. -/
def moreDigits (isDigit : Char → Bool) : List Char → List Char × List Char
  | [] => ([], [])
  | c :: cs =>
    if isDigit c then
      let run := moreDigits isDigit cs
      (c :: run.1, run.2)
    else if c = '_' ∧ cs.head?.any isDigit then moreDigits isDigit cs
    else ([], c :: cs)

/-- A run of digits, without its underscores, and the rest. -/
def digitRun (isDigit : Char → Bool) (cs : List Char) : List Char × List Char :=
  if cs.head?.any isDigit then moreDigits isDigit cs else ([], cs)

/-- Whether a character is an octal digit. -/
def isOctal (c : Char) : Bool := '0' ≤ c && c ≤ '7'

/-- Whether a character is a binary digit. -/
def isBinary (c : Char) : Bool := c == '0' || c == '1'

/-- The number system that a mark stands for: its radix and its digits. -/
def radixOf? : Char → Option (Nat × (Char → Bool))
  | 'x' => some (16, Text.isHex)
  | 'o' => some (8, isOctal)
  | 'b' => some (2, isBinary)
  | _ => none

/-- A whole number behind the mark of its number system. -/
def marked? : List Char → Option (Value × List Char)
  | '0' :: mark :: cs =>
    match radixOf? mark with
    | none => none
    | some (radix, isDigit) =>
      match digitRun isDigit cs with
      | ([], _) => none
      | (digits, rest) => some (.int (Text.radixValue radix digits), rest)
  | _ => none

/-- The sign in front of a number: whether it is a minus, and the rest. -/
def sign : List Char → Bool × List Char
  | '-' :: cs => (true, cs)
  | '+' :: cs => (false, cs)
  | cs => (false, cs)

/-- The digits of a whole number: a single zero, or a run that starts with another digit. -/
def wholeDigits : List Char → List Char × List Char
  | '0' :: cs => (['0'], cs)
  | cs => digitRun Text.isDecimal cs

/-- The digits of a fraction. A point without a digit behind it is left. -/
def fractionDigits : List Char → List Char × List Char
  | '.' :: cs =>
    match digitRun Text.isDecimal cs with
    | ([], _) => ([], '.' :: cs)
    | run => run
  | cs => ([], cs)

/-- An exponent. Its letter is left where no digit follows. -/
def exponent? : List Char → Option Int × List Char
  | [] => (none, [])
  | c :: cs =>
    if c = 'e' ∨ c = 'E' then
      let (negative, ds) := sign cs
      match digitRun Text.isDecimal ds with
      | ([], _) => (none, c :: cs)
      | (digits, rest) =>
        let n : Int := Text.decimalValue digits
        (some (if negative then -n else n), rest)
    else (none, c :: cs)

/-- A decimal number; none when no digit stands behind the sign. -/
def decimal? (cs : List Char) : Option (Result Value) :=
  let (negative, ds) := sign cs
  match wholeDigits ds with
  | ([], _) => none
  | (whole, rest) =>
    let (fraction, rest) := fractionDigits rest
    let (exponent, rest) := exponent? rest
    if fraction.isEmpty && exponent.isNone then
      if maxDigits < whole.length then some (.error (.badValue (.tooManyDigits whole.length)))
      else
        let n : Int := Text.decimalValue whole
        some (.ok (.int (if negative then -n else n), rest))
    else
      let x := Double.ofDecimal negative (Text.decimalValue (whole ++ fraction))
        (exponent.getD 0 - fraction.length)
      some (.ok (.number (.float x), rest))

/-- A number that goes by its name. -/
def named? (cs : List Char) : Option (Value × List Char) :=
  let (negative, ds) := sign cs
  match ds with
  | 'i' :: 'n' :: 'f' :: rest => some (.number (.float (.infinite negative)), rest)
  | 'n' :: 'a' :: 'n' :: rest => some (.number (.float (.nan 0)), rest)
  | _ => none

/-- A number at the front of a text. -/
def number? (cs : List Char) : Option (Result Value) :=
  match marked? cs with
  | some r => some (.ok r)
  | none =>
    match decimal? cs with
    | some r => some r
    | none => (named? cs).map .ok

end CodeGraph.Toml
