import CodeGraph.Console.Colour
import CodeGraph.Text.LowerCase

/-!
# Styles

The style of a text is written in words: attributes, each of which may be taken back, a colour, a
background colour and a link. A style has a normal form, by which two ways of writing it are seen to
be the same; what is no style is its own normal form in small letters.

Main definitions:

- `Style.read`: the style that words stand for;
- `Style.text`: a style in words;
- `Style.normalForm`: the normal form of a text.
-/
namespace CodeGraph.Console

/-- The attributes of a style. -/
inductive Attribute where
  | bold
  | dim
  | italic
  | underline
  | blink
  | blink2
  | reverse
  | conceal
  | strike
  | underline2
  | frame
  | encircle
  | overline
  deriving DecidableEq, Repr

namespace Attribute

/-- The attributes, in the order in which a style names them. -/
def all : List Attribute :=
  [bold, dim, italic, underline, blink, blink2, reverse, conceal, strike, underline2, frame,
    encircle, overline]

/-- The name of an attribute. -/
def name : Attribute → String
  | bold => "bold"
  | dim => "dim"
  | italic => "italic"
  | underline => "underline"
  | blink => "blink"
  | blink2 => "blink2"
  | reverse => "reverse"
  | conceal => "conceal"
  | strike => "strike"
  | underline2 => "underline2"
  | frame => "frame"
  | encircle => "encircle"
  | overline => "overline"

/-- The short name of an attribute, if it has one. -/
def shortName? : Attribute → Option String
  | bold => some "b"
  | dim => some "d"
  | italic => some "i"
  | underline => some "u"
  | reverse => some "r"
  | conceal => some "c"
  | strike => some "s"
  | underline2 => some "uu"
  | overline => some "o"
  | _ => none

/-- The attribute with a name or a short name. -/
def ofWord? (word : List Char) : Option Attribute :=
  all.find? fun a => a.name.toList == word || a.shortName?.any fun s => s.toList == word

end Attribute

/-- A style: its attributes, set or taken back, its colours and its link. -/
structure Style where
  attributes : List (Attribute × Bool) := []
  colour : Option (List Char) := none
  background : Option (List Char) := none
  link : Option (List Char) := none
  deriving DecidableEq, Repr

/-- A mistake in the arithmetic of a colour. -/
inductive ColourFault where
  | emptyPart
  | longPart (digits : Nat)
  deriving DecidableEq, Repr

/-- The message of a mistake. -/
def ColourFault.message : ColourFault → String
  | .emptyPart => "invalid literal for int() with base 10: ''"
  | .longPart n => (CodeGraph.Fault.tooManyDigits n).message

namespace Style

/-- A style, with what a colour makes of it; none when the colour is none. -/
def withColour (set : List Char → Style) (word : List Char) :
    Except ColourFault (Option Style) :=
  match Colour.verdict word with
  | .colour => .ok (some (set word))
  | .none => .ok none
  | .emptyPart => .error .emptyPart
  | .longPart n => .error (.longPart n)

/-- A style with an attribute set or taken back. The last word on an attribute counts. -/
def setAttribute (s : Style) (a : Attribute) (on : Bool) : Style :=
  { s with attributes := (a, on) :: s.attributes }

/-- The style that words stand for, given the style of the words before them; none when they stand
for no style. -/
def readFrom (s : Style) : List (List Char) → Except ColourFault (Option Style)
  | [] => .ok (some s)
  | word :: rest =>
    let small := Text.lowerCase word
    if small == "on".toList then
      match rest with
      | [] => .ok none
      | next :: rest =>
        match withColour (fun c => { s with background := some c }) (Text.lowerCase next) with
        | .ok (some t) => readFrom t rest
        | r => r
    else if small == "not".toList then
      match rest with
      | [] => .ok none
      | next :: rest =>
        match Attribute.ofWord? next with
        | some a => readFrom (s.setAttribute a false) rest
        | none => .ok none
    else if small == "link".toList then
      match rest with
      | [] => .ok none
      | next :: rest => readFrom { s with link := some next } rest
    else
      match Attribute.ofWord? small with
      | some a => readFrom (s.setAttribute a true) rest
      | none =>
        match withColour (fun c => { s with colour := some c }) small with
        | .ok (some t) => readFrom t rest
        | r => r

/-- The style that words stand for. -/
def read (words : List (List Char)) : Except ColourFault (Option Style) := readFrom {} words

/-- The words for an attribute of a style. -/
def attributeText (s : Style) (a : Attribute) : Option String :=
  (s.attributes.find? fun e => e.1 == a).map fun e => if e.2 then a.name else "not " ++ a.name

/-- The style that says nothing. -/
def nothing : String := "none"

/-- A style in words. -/
def text (s : Style) : List Char :=
  let parts := Attribute.all.filterMap (fun a => (s.attributeText a).map String.toList) ++
    s.colour.toList ++ (s.background.toList.map ("on ".toList ++ ·)) ++
    (s.link.toList.map ("link ".toList ++ ·))
  if parts.isEmpty then nothing.toList else [' '].intercalate parts

/-- The normal form of a text. -/
def normalForm (cs : List Char) : Except ColourFault (List Char) :=
  if Text.trim cs == nothing.toList then .ok nothing.toList
  else
    match read (Text.words cs) with
    | .ok (some s) => .ok s.text
    | .ok none => .ok (Text.lowerCase (Text.trim cs))
    | .error f => .error f

end Style

end CodeGraph.Console
