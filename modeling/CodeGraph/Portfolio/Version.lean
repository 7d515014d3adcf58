import CodeGraph.Document.Fault
import CodeGraph.Text.Blank
import CodeGraph.Text.Digit
import CodeGraph.Text.Split

/-!
# Major versions

A version constraint such as `~> 3.10`, `^1.2` or `>=2.0,<3` starts with an operator or none, and
then with the number of a major version. Everything from the first comma or bar on belongs to
further constraints.

Main definitions:

- `Version.stripOperator`: a constraint without its operator;
- `Version.major?`: the major version that a constraint starts with.
-/
namespace CodeGraph.Version

/-- The operators. One that begins another comes after it. -/
def operators : List String := ["~>", "^", "~=", ">=", "<=", "==", "!=", "~", "=", ">", "<"]

/-- A text without the operator it starts with. -/
def dropOperator (cs : List Char) : List Char :=
  (operators.findSome? fun op => Text.dropPrefix? op.toList cs).getD cs

/-- A text without the letter that may stand in front of a version. -/
def dropLetter : List Char → List Char
  | 'v' :: cs => cs
  | 'V' :: cs => cs
  | cs => cs

/-- A constraint without its operator, the letter in front of the version, and the blanks around
them. -/
def stripOperator (cs : List Char) : List Char :=
  Text.skipBlanks (dropLetter (Text.skipBlanks (dropOperator (Text.skipBlanks cs))))

/-- The first constraint of a list of constraints. -/
def firstConstraint (cs : List Char) : List Char :=
  Text.before "||".toList (Text.before ",".toList cs)

/-- The major version that a constraint starts with. A number may not have too many digits. -/
def major? (constraint : String) : Except Fault (Option Nat) :=
  let digits := (stripOperator (firstConstraint constraint.toList)).takeWhile Text.isDigit
  if digits.isEmpty then .ok none
  else if maxDigits < digits.length then .error (.tooManyDigits digits.length)
  else .ok (some (Text.digitsValue digits))

end CodeGraph.Version
