import CodeGraph.Literal.Reader

/-!
# Values of literals

An expression is a literal when it is made of numbers, texts, constants, tuples, lists, sets and
dictionaries alone. The keys of dictionaries and the members of sets must not be changeable.

Main definitions:

- `Tree.changeable?`: the changeable value in a literal that keeps it from being a key;
- `fault?`: why a text is no literal.
-/
namespace CodeGraph.Literal

/-- The reason why an expression has no value. -/
def malformed : String := "malformed node or string on line 1"

/-- The reason why pairs have no values. -/
def malformedPair : String := "malformed node or string: None"

/-- A value may be a key unless it is of a changeable type, which has a name, or holds such a
value. -/
def asKey (changeable : Option String) : Except String Unit :=
  match changeable with
  | some type => .error ("unhashable type: '" ++ type ++ "'")
  | none => .ok ()

/-- Whether a text of a number is imaginary. -/
def isImaginary (digits : List Char) : Bool :=
  digits.getLast?.any fun c => c == 'j' || c == 'J'

/-- Whether an expression is a number, real or imaginary as asked. -/
def Tree.isNumber (imaginary : Bool) : Tree → Bool
  | .node .number [.leaf (.number digits)] => isImaginary digits = imaginary
  | _ => false

/-- Whether an expression is a real number, perhaps with a sign. -/
def Tree.isSignedReal : Tree → Bool
  | .node .signed [t] => t.isNumber false
  | t => t.isNumber false

mutual

/-- The name of the changeable type that keeps a literal from being a key. -/
def Tree.changeable? : Tree → Except String (Option String)
  | .node .constant _ | .node .number _ | .node .ellipsis _ => .ok none
  | .node .text parts => if parts.any Tree.isFormattedText then .error malformed else .ok none
  | .node .tuple parts => Tree.firstChangeable? parts
  | .node .list parts => (Tree.firstChangeable? parts).map fun _ => some "list"
  | .node .set parts => (Tree.checkMembers parts).map fun _ => some "set"
  | .node .dictionary parts => (Tree.checkPairs parts).map fun _ => some "dict"
  | .node .call [t] => if t.isNameIn ["set"] then .ok (some "set") else .error malformed
  | .node .signed [t] =>
    if t.isNumber false || t.isNumber true then .ok none else .error malformed
  | .node .sum [t, u] =>
    if t.isSignedReal && u.isNumber true then .ok none else .error malformed
  | _ => .error malformed

/-- The first changeable type among literals. -/
def Tree.firstChangeable? : List Tree → Except String (Option String)
  | [] => .ok none
  | t :: ts => do
    let first ← t.changeable?
    let others ← Tree.firstChangeable? ts
    return first.orElse fun _ => others

/-- Look at the members of a set. -/
def Tree.checkMembers : List Tree → Except String Unit
  | [] => .ok ()
  | t :: ts => do
    asKey (← t.changeable?)
    Tree.checkMembers ts

/-- Look at the pairs of a dictionary. -/
def Tree.checkPairs : List Tree → Except String Unit
  | [] => .ok ()
  | .node .pair [key, value] :: ts => do
    let k ← key.changeable?
    let _ ← value.changeable?
    asKey k
    Tree.checkPairs ts
  | _ => .error malformedPair

end

/-- Why a text is no literal: it is no expression, or one without a value. -/
inductive Fault where
  | badSyntax (reason : String)
  | badValue (reason : String)
  deriving DecidableEq, Repr

/-- Why a text is no literal. Blanks before it do not matter. -/
def fault? (cs : List Char) : Option Fault :=
  if cs.contains '\x00' then some (.badValue "source code string cannot contain null bytes")
  else
    match read (cs.dropWhile fun c => c == ' ' || c == '\t') with
    | .error reason => some (.badSyntax reason)
    | .ok tree =>
      match tree.changeable? with
      | .error reason => some (.badValue reason)
      | .ok _ => none

end CodeGraph.Literal
