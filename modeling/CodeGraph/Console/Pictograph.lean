import CodeGraph.Console.PictographTable
import CodeGraph.Text.Blank
import CodeGraph.Text.LowerCase
import CodeGraph.Text.Numeral
import CodeGraph.Text.Split

/-!
# Pictographs

A name between colons stands for a pictograph. The name may be written in any case, and it may end
in a request for the text form or the emoji form of the pictograph. What is no such name stays as it
is, with its colons, and neither of these opens or closes another name.

Main definitions:

- `withPictographs`: a text with pictographs for their names.
-/
namespace CodeGraph.Console

/-- The words of a list in pairs. -/
def inPairs : List (List Char) → List (List Char × List Char)
  | name :: code :: rest => (name, code) :: inPairs rest
  | _ => []

/-- The names of pictographs with their code points. -/
def pictographCodes : List (List Char × List Char) := inPairs (Text.words pictographText.toList)

/-- The characters of code points in hexadecimal with dashes between them. -/
def charsOfCodes (code : List Char) : List Char :=
  (Text.splitAt '-' code).map fun n => Char.ofNat (Text.radixValue 16 n)

/-- The pictograph with a name in small letters. -/
def named? (name : List Char) : Option (List Char) :=
  (pictographCodes.find? fun e => e.1 == name).map fun e => charsOfCodes e.2

/-- The endings of names that ask for a form, each with the selector of the form. -/
def formEndings : List (List Char × Char) :=
  [("-emoji".toList, '\ufe0f'), ("-text".toList, '\ufe0e')]

/-- A name without the request for a form at its end, and the selector of that form. -/
def splitForm (name : List Char) : List Char × List Char :=
  match formEndings.find? fun e => Text.startsWith e.1.reverse name.reverse with
  | some e => (name.take (name.length - e.1.length), [e.2])
  | none => (name, [])

/-- The pictograph that a text between colons stands for. -/
def pictograph? (name : List Char) : Option (List Char) :=
  let (name, selector) := splitForm name
  (named? (Text.lowerCase name)).map (· ++ selector)

/-- A text between colons with the pictograph that it stands for. -/
def orPictograph (name : List Char) : List Char :=
  (pictograph? name).getD (':' :: name ++ [':'])

/-- A text, given as its pieces between colons, with pictographs for their names. -/
def replaceNames : List (List Char) → List Char
  | [] => []
  | [p] => p
  | [p, q] => p ++ ':' :: q
  | p :: q :: r :: rest =>
    if q.any Text.isBlank then p ++ ':' :: replaceNames (q :: r :: rest)
    else p ++ orPictograph q ++ replaceNames (r :: rest)

/-- A text with pictographs for their names. -/
def withPictographs (cs : List Char) : List Char := replaceNames (Text.splitAt ':' cs)

end CodeGraph.Console
