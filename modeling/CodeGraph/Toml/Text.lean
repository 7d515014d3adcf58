import CodeGraph.Text.Numeral
import CodeGraph.Toml.Basic

/-!
# TOML: texts and keys

A text stands in single quotes, which know no escapes, or in double quotes, which do; three quotes
make it span lines. A text over lines loses the line feed right after its opening, and a backslash
at the end of a line takes away all blanks up to the next other character.

A key is one part or several with dots between them; a part is bare or quoted on one line.
-/
namespace CodeGraph.Toml

/-- The rest of a text in single quotes, given what was read of it, last character first. -/
def literalTail (done : List Char) : List Char → Result String
  | [] => .error .badSyntax
  | c :: cs =>
    if c = '\'' then .ok (String.ofList done.reverse, cs)
    else if isControl c then .error .badSyntax
    else literalTail (c :: done) cs

/-- Up to two more quotes belong to a text over lines when they follow its last three. -/
def extraQuotes (quote : Char) (done : List Char) : List Char → String × List Char
  | a :: b :: cs =>
    if a = quote then
      if b = quote then (String.ofList (quote :: quote :: done).reverse, cs)
      else (String.ofList (quote :: done).reverse, b :: cs)
    else (String.ofList done.reverse, a :: b :: cs)
  | [a] =>
    if a = quote then (String.ofList (quote :: done).reverse, [])
    else (String.ofList done.reverse, [a])
  | [] => (String.ofList done.reverse, [])

/-- The rest of a text in three single quotes. -/
def literalLinesTail (done : List Char) : List Char → Result String
  | [] => .error .badSyntax
  | '\'' :: '\'' :: '\'' :: cs => .ok (extraQuotes '\'' done cs)
  | c :: cs =>
    if isControl c && c != '\n' then .error .badSyntax
    else literalLinesTail (c :: done) cs

/-- The character of an escape with one letter. -/
def escaped? : Char → Option Char
  | 'b' => some (Char.ofNat 8)
  | 't' => some '\t'
  | 'n' => some '\n'
  | 'f' => some (Char.ofNat 12)
  | 'r' => some '\r'
  | '"' => some '"'
  | '\\' => some '\\'
  | _ => none

/-- The character of an escape with a code. Half a surrogate pair is no character. -/
def coded? (digits : List Char) : Option Char :=
  match Text.hexNumber? digits with
  | some n => if n.isValidChar then some (Char.ofNat n) else none
  | none => none

/-- How blanks are treated inside a text: they are kept, or dropped up to the end of the line, or
dropped with all line feeds. -/
inductive Blanks where
  | kept
  | droppedToLineEnd
  | dropped
  deriving DecidableEq, Repr

/-- The rest of a text in double quotes, or in three of them when it spans lines. -/
def basicTail (spansLines : Bool) (blanks : Blanks) (done : List Char) :
    List Char → Result String
  | [] => .error .badSyntax
  | c :: cs =>
    if blanks = .droppedToLineEnd then
      if isSpace c then basicTail spansLines .droppedToLineEnd done cs
      else if c = '\n' then basicTail spansLines .dropped done cs
      else .error .badSyntax
    else if blanks = .dropped ∧ (isSpace c ∨ c = '\n') then basicTail spansLines .dropped done cs
    else if c = '"' then
      if spansLines then
        match cs with
        | '"' :: '"' :: ds => .ok (extraQuotes '"' done ds)
        | _ => basicTail spansLines .kept (c :: done) cs
      else .ok (String.ofList done.reverse, cs)
    else if c = '\\' then
      match cs with
      | 'u' :: c₁ :: c₂ :: c₃ :: c₄ :: ds =>
        match coded? [c₁, c₂, c₃, c₄] with
        | some d => basicTail spansLines .kept (d :: done) ds
        | none => .error .badSyntax
      | 'U' :: c₁ :: c₂ :: c₃ :: c₄ :: c₅ :: c₆ :: c₇ :: c₈ :: ds =>
        match coded? [c₁, c₂, c₃, c₄, c₅, c₆, c₇, c₈] with
        | some d => basicTail spansLines .kept (d :: done) ds
        | none => .error .badSyntax
      | e :: ds =>
        if spansLines && isSpace e then basicTail spansLines .droppedToLineEnd done ds
        else if spansLines && e == '\n' then basicTail spansLines .dropped done ds
        else
          match escaped? e with
          | some d => basicTail spansLines .kept (d :: done) ds
          | none => .error .badSyntax
      | [] => .error .badSyntax
    else if isControl c && !(spansLines && c == '\n') then .error .badSyntax
    else basicTail spansLines .kept (c :: done) cs

/-- A text without the line feed in front, if there is one. -/
def skipLineFeed : List Char → List Char
  | '\n' :: cs => cs
  | cs => cs

/-- A text in quotes of any kind; none when no quote stands in front. -/
def quotedText? : List Char → Option (Result String)
  | '"' :: '"' :: '"' :: cs => some (basicTail true .kept [] (skipLineFeed cs))
  | '"' :: cs => some (basicTail false .kept [] cs)
  | '\'' :: '\'' :: '\'' :: cs => some (literalLinesTail [] (skipLineFeed cs))
  | '\'' :: cs => some (literalTail [] cs)
  | _ => none

/-- Whether a character may stand in a bare key. -/
def isBare (c : Char) : Bool := c.isAlphanum || c == '-' || c == '_'

/-- One part of a key. -/
def keyPart : List Char → Result String
  | '"' :: cs => basicTail false .kept [] cs
  | '\'' :: cs => literalTail [] cs
  | cs =>
    match cs.takeWhile isBare with
    | [] => .error .badSyntax
    | part => .ok (String.ofList part, cs.dropWhile isBare)

/-- The parts of a key from one of them on, given the parts before it, last one first. -/
def keyFrom : Nat → List String → List Char → Result (List String)
  | 0, _, _ => .error .badSyntax
  | fuel + 1, done, cs =>
    match keyPart cs with
    | .error f => .error f
    | .ok (part, ds) =>
      match skipSpaces ds with
      | '.' :: es => keyFrom fuel (part :: done) (skipSpaces es)
      | es => .ok ((part :: done).reverse, es)

/-- A key, with the spaces behind it taken off. -/
def key (cs : List Char) : Result (List String) := keyFrom (cs.length + 1) [] cs

end CodeGraph.Toml
