import CodeGraph.Literal.Value
import CodeGraph.Text.Blank
import CodeGraph.Text.Word

/-!
# Parameters of actions

The parameters of an action are a literal, or the name of a handler with what it is given in
parentheses. A handler that is given nothing may stand without parentheses.

Main definitions:

- `Parameters.literal`: the part of parameters that has to be a literal;
- `Parameters.fault?`: why it is none.
-/
namespace CodeGraph.Parameters

/-- Whether a character may stand in the name of a handler. -/
def isHandlerPart (c : Char) : Bool := Text.isWord c || c == '.'

/-- Whether a text stands in parentheses on one line. -/
def isGiven (cs : List Char) : Bool :=
  cs.head? == some '(' && cs.getLast? == some ')' && !cs.contains '\n'

/-- The part of parameters that has to be a literal: what stands behind the name of a handler, or
everything if there is no such name. -/
def literal (cs : List Char) : List Char :=
  let given := (Text.trim cs).dropWhile isHandlerPart
  if given.isEmpty then ['(', ')']
  else if isGiven given then given
  else Text.trim cs

/-- Why parameters are at fault: what was read is no expression, or one without a value. -/
inductive Fault where
  | badSyntax (read : List Char) (reason : String)
  | badValue (reason : String)
  deriving DecidableEq, Repr

/-- Why parameters are at fault, if they are. -/
def fault? (cs : List Char) : Option Fault :=
  (Literal.fault? (literal cs)).map fun
    | .badSyntax reason => .badSyntax (literal cs) reason
    | .badValue reason => .badValue reason

end CodeGraph.Parameters
