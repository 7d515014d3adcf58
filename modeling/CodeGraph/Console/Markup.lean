import CodeGraph.Console.Marked
import CodeGraph.Console.Parameters
import CodeGraph.Console.Pictograph
import CodeGraph.Console.Style
import CodeGraph.Text.Quoted

/-!
# Markup

Lines for a console may hold style tags in brackets. A tag starts with a small letter, a number
sign, an at sign or, when it closes another tag, a slash; brackets around anything else are plain
text. A backslash in front of a tag makes it plain text as well. In plain text, names between colons
stand for pictographs.

On a console without colours the tags show nothing: they only mark the stretches of text that they
stand around. But a tag that closes nothing is refused, and so is a tag of an action, which starts
with an at sign, when it is closed and has parameters that are no literal.

Main definitions:

- `Markup.tokens`: the plain parts and the tags of a line;
- `Markup.read`: the text of a line with the stretches that its tags mark.
-/
namespace CodeGraph.Markup

/-- A tag: its name, and its parameters behind an equals sign. -/
structure Tag where
  name : List Char
  parameters : Option (List Char) := none
  deriving DecidableEq, Repr

/-- The tag with a body. -/
def Tag.ofBody (body : List Char) : Tag where
  name := body.takeWhile (· != '=')
  parameters := (body.dropWhile (· != '=')).tail?

/-- The body of a tag. -/
def Tag.body (t : Tag) : List Char :=
  match t.parameters with
  | none => t.name
  | some ps => t.name ++ '=' :: ps

/-- Why a line cannot be shown: a tag that closes nothing, and where it stands; the parameters of an
action; or the colour in a tag. -/
inductive Fault where
  | unmatched (tag : Tag) (position : Nat)
  | nothingToClose (position : Nat)
  | parameters (text : List Char) (fault : Parameters.Fault)
  | colour (fault : Console.ColourFault)
  deriving DecidableEq, Repr

/-- The message of a fault. -/
def Fault.message : Fault → String
  | .unmatched tag position =>
    "closing tag '[" ++ String.ofList tag.body ++ "]' at position " ++ toString position ++
      " doesn't match any open tag"
  | .nothingToClose position =>
    "closing tag '[/]' at position " ++ toString position ++ " has nothing to close"
  | .parameters text fault =>
    match fault with
    | .badSyntax read reason =>
      "error parsing " ++ Text.quoted (String.ofList read) ++ " in " ++
        Text.quoted (String.ofList text) ++ "; " ++ reason
    | .badValue reason => "error parsing " ++ Text.quoted (String.ofList text) ++ "; " ++ reason
  | .colour fault => fault.message

/-- Whether a fault is one of the markup itself, and not of a number in it. -/
def Fault.isOfMarkup : Fault → Bool
  | .colour _ => false
  | _ => true

/-- A plain part of a line, or a tag at a position. -/
inductive Token where
  | plain (text : List Char)
  | tag (tag : Tag) (position : Nat)
  deriving DecidableEq, Repr

/-- Whether a tag may start with a character. -/
def startsTag (c : Char) : Bool :=
  ('a' ≤ c && c ≤ 'z') || c == '#' || c == '/' || c == '@'

/-- What stands between the brackets of a tag at the front of a text. -/
def tagBody? : List Char → Option (List Char)
  | '[' :: c :: cs =>
    let rest := cs.dropWhile fun d => d != ']' && d != '['
    if startsTag c && rest.head? == some ']' then
      some (c :: cs.takeWhile fun d => d != ']' && d != '[')
    else none
  | _ => none

/-- A tag at the front of a text with the number of backslashes before it. -/
def tagAt? (cs : List Char) : Option (Nat × List Char) :=
  let escapes := cs.takeWhile (· == '\\')
  (tagBody? (cs.drop escapes.length)).map fun body => (escapes.length, body)

/-- A text without the backslashes before brackets. -/
def unescape : List Char → List Char
  | '\\' :: '[' :: cs => '[' :: unescape cs
  | c :: cs => c :: unescape cs
  | [] => []

/-- Whether a character shows on a console. Bells, backspaces and the like are dropped. -/
def isShown (c : Char) : Bool :=
  let n := c.toNat
  !(n == 7 || n == 8 || n == 11 || n == 12 || n == 13)

/-- A plain part, unless it is empty. -/
def plainToken (text : List Char) : List Token :=
  if text.isEmpty then []
  else [.plain ((Console.withPictographs (unescape text)).filter isShown)]

/-- The tokens of a tag behind backslashes. Two backslashes stand for one; one left over makes the
tag plain. -/
def tagTokens (position escapes : Nat) (body : List Char) : List Token :=
  let literal := List.replicate (escapes / 2) '\\'
  plainToken literal ++
    (if escapes % 2 = 1 then plainToken ('[' :: body ++ [']'])
     else [.tag (Tag.ofBody body) (position + 2 * (escapes / 2))])

/-- The tokens of a text from a position on, given the plain characters before it, last one first,
and how many characters belong to a tag already found. -/
def tokensFrom (position : Nat) (plain : List Char) (taken : Nat) : List Char → List Token
  | [] => plainToken plain.reverse
  | c :: cs =>
    match taken with
    | n + 1 => tokensFrom (position + 1) plain n cs
    | 0 =>
      match tagAt? (c :: cs) with
      | none => tokensFrom (position + 1) (c :: plain) 0 cs
      | some (escapes, body) =>
        plainToken plain.reverse ++ tagTokens position escapes body ++
          tokensFrom (position + 1) [] (escapes + body.length + 1) cs

/-- The plain parts and the tags of a line. -/
def tokens (cs : List Char) : List Token := tokensFrom 0 [] 0 cs

/-- An open tag, its name in its normal form, and where the text behind it starts. -/
structure OpenTag where
  tag : Tag
  start : Nat
  deriving DecidableEq, Repr

/-- The innermost open tag with a name, and the others. -/
def takeNamed? (name : List Char) : List OpenTag → Option (OpenTag × List OpenTag)
  | [] => none
  | t :: ts =>
    if t.tag.name = name then some (t, ts)
    else (takeNamed? name ts).map fun r => (r.1, t :: r.2)

/-- The normal form of the name of a tag. -/
def styleName (name : List Char) : Except Fault (List Char) :=
  (Console.Style.normalForm name).mapError .colour

/-- The tag that a closing tag closes, and the other open tags. -/
def close (opened : List OpenTag) (tag : Tag) (position : Nat) :
    Except Fault (OpenTag × List OpenTag) := do
  let closing := Text.trim tag.name.tail
  if closing.isEmpty then
    match opened with
    | [] => throw (.nothingToClose position)
    | t :: outer => return (t, outer)
  else
    match takeNamed? (← styleName closing) opened with
    | none => throw (.unmatched tag position)
    | some r => return r

/-- Look at the parameters of a tag that is closed. Only those of an action matter. -/
def checkParameters (tag : Tag) : Except Fault Unit :=
  match tag.name, tag.parameters with
  | '@' :: _, some (c :: cs) =>
    match Parameters.fault? (c :: cs) with
    | none => .ok ()
    | some f => .error (.parameters (c :: cs) f)
  | _, _ => .ok ()

/-- A text with one more stretch, from a place to its end. -/
def mark (t : Console.Marked) (start : Nat) : Console.Marked :=
  { t with stretches := ⟨start, t.length⟩ :: t.stretches }

/-- The text of tokens behind a text, with the stretches that the tags mark, given the open tags,
the innermost first. Tags that are never closed reach to the end. -/
def readFrom (done : Console.Marked) (opened : List OpenTag) :
    List Token → Except Fault Console.Marked
  | [] => .ok (opened.foldl (fun t o => mark t o.start) done)
  | .plain text :: ts => readFrom { done with chars := done.chars ++ text } opened ts
  | .tag tag position :: ts => do
    if tag.name.head? = some '/' then
      let (t, outer) ← close opened tag position
      checkParameters t.tag
      readFrom (mark done t.start) outer ts
    else
      let name ← styleName tag.name
      readFrom done (⟨{ tag with name := name }, done.length⟩ :: opened) ts

/-- The text of a line with the stretches that its tags mark. -/
def read (line : String) : Except Fault Console.Marked := readFrom ⟨[], []⟩ [] (tokens line.toList)

end CodeGraph.Markup
