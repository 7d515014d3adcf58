import CodeGraph.Manifest.Basic
import CodeGraph.Text.Blank
import CodeGraph.Text.Split

/-!
# Requirements

A requirement names a package, perhaps with extras in brackets, and says which versions of it will
do. Comments and conditions at the end of its line do not count. A package that is fetched from an
address has no version; its name stands before an at sign or in the fragment of the address.

Main definitions:

- `Requirement.parse?`: the dependency that a line declares, if it declares one.
-/
namespace CodeGraph.Requirement

/-- Whether a name may start with a character. -/
def startsName (c : Char) : Bool := c.isAlphanum

/-- Whether a character may stand inside a name. -/
def isNameChar (c : Char) : Bool := c.isAlphanum || c == '.' || c == '_' || c == '-'

/-- A name at the front of a text and what follows it. -/
def name? (cs : List Char) : Option (List Char × List Char) :=
  if cs.head?.any startsName then some (cs.takeWhile isNameChar, cs.dropWhile isNameChar)
  else none

/-- A text without the extras in front, if it starts with some. -/
def skipExtras (cs : List Char) : List Char :=
  match cs with
  | '[' :: ds =>
    match ds.dropWhile (· != ']') with
    | _ :: es => es
    | [] => cs
  | _ => cs

/-- A name at the front of a text, and what follows it, its extras and the blanks around them. -/
def nameAndRest? (cs : List Char) : Option (List Char × List Char) :=
  (name? (Text.skipBlanks cs)).map fun r =>
    (r.1, Text.skipBlanks (skipExtras (Text.skipBlanks r.2)))

/-- The part of a line that counts: all before a comment and before conditions. -/
def relevant (line : List Char) : List Char :=
  Text.trim (Text.before [';'] (Text.before [' ', '#'] line))

/-- The name in front of an at sign. -/
def referenceName? (cs : List Char) : Option (List Char) := do
  let (name, rest) ← nameAndRest? cs
  guard (rest.head? == some '@')
  return name

/-- The name in the fragment of an address. -/
def fragmentName? (cs : List Char) : Option (List Char) :=
  Text.firstMatch (fun ds =>
    match ds with
    | c :: es => do
      guard (c == '#' || c == '&')
      let rest ← Text.dropPrefix? "egg=".toList es
      let (name, _) ← name? rest
      return name
    | [] => none) cs

/-- The version constraint behind a name, with blanks and parentheses around it taken off. -/
def constraintOf (cs : List Char) : List Char :=
  Text.trim (Text.trimWhile (fun c => c == '(' || c == ')') (Text.trim cs))

/-- The dependency that a line declares. Blank lines, comments, options and whatever does not start
with a name declare none. -/
def parse? (line : String) : Option Dependency :=
  let cs := relevant line.toList
  match cs with
  | [] => none
  | c :: _ =>
    if c = '#' ∨ c = '-' then none
    else if Text.occursIn "://".toList cs then
      ((referenceName? cs).orElse fun _ => fragmentName? cs).map fun name =>
        ⟨String.ofList name, none⟩
    else
      match nameAndRest? cs with
      | none => none
      | some (name, rest) =>
        if '\n' ∈ rest then none
        else
          let constraint := constraintOf rest
          some ⟨String.ofList name,
            if constraint.isEmpty then none else some (String.ofList constraint)⟩

/-- The dependencies that lines declare. -/
def parseLines (lines : List String) : List Dependency := lines.filterMap parse?

end CodeGraph.Requirement
