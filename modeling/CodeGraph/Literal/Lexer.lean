import CodeGraph.Literal.Number
import CodeGraph.Text.Printable
import CodeGraph.Text.Split

/-!
# Reading tokens

A text is read into tokens from its front. Blanks stand between tokens, and a number sign starts a
remark that reaches to the end of its line. A line feed is a token of its own outside brackets.

Main definitions:

- `Scan`: the tokens of a text, with what is wrong with it;
- `scan`: reads them.
-/
namespace CodeGraph.Literal

/-- Whether a character may stand between tokens of a line. -/
def isGap (c : Char) : Bool := c == ' ' || c == '\t' || c == '\x0c'

/-- The signs of more than one character, longer ones first. -/
def longSigns : List String :=
  ["**=", "//=", "<<=", ">>=", "...", "!=", "%=", "&=", "**", "*=", "+=", "-=", "->", "//", "/=",
    ":=", "<<", "<=", "<>", "==", ">=", ">>", "@=", "^=", "|="]

/-- The number of a code point in hexadecimal, with four digits at least. -/
def codePoint (c : Char) : String :=
  let n := c.toNat
  let width := if n < 0x10000 then 4 else if n < 0x100000 then 5 else 6
  "U+" ++ String.ofList ((Text.hexDigits width n).map Char.toUpper)

/-- The fault of a character that no token holds. -/
def strayCharacter (c : Char) : String :=
  if Text.isPrintable c then
    "invalid character '" ++ String.singleton c ++ "' (" ++ codePoint c ++ ")"
  else "invalid non-printable character " ++ codePoint c

/-- Look at the characters of a name. -/
def checkName : List Char → Except String Unit
  | [] => .ok ()
  | c :: cs =>
    if !isNameStart c then .error (strayCharacter c)
    else match cs.find? fun d => !isNamePart d with
      | some d => .error (strayCharacter d)
      | none => .ok ()

/-- The form that letters in front of a quote stand for. -/
def textForm? (letters : List Char) : Option TextForm :=
  match String.ofList (letters.map Char.toLower) with
  | "" => some {}
  | "u" => some {}
  | "r" => some { raw := true }
  | "b" => some { bytes := true }
  | "f" => some { formatted := true }
  | "br" | "rb" => some { bytes := true, raw := true }
  | "fr" | "rf" => some { raw := true, formatted := true }
  | _ => none

/-- The closing bracket of an opening one. -/
def closing (c : Char) : Char :=
  if c = '(' then ')' else if c = '{' then '}' else ']'

/-- A text in quotes: the form, and what follows the opening quote. -/
structure TextStart where
  form : TextForm
  quote : Char
  tripled : Bool
  rest : List Char

/-- The start of a text in quotes at the front of a text. -/
def textStart? (cs : List Char) : Option TextStart :=
  let letters := cs.takeWhile fun c => c.isAlpha
  match cs.drop letters.length with
  | q :: rest =>
    if q = '\'' ∨ q = '"' then
      (textForm? letters).map fun form =>
        match rest with
        | a :: b :: rest' =>
          if a = q ∧ b = q then ⟨form, q, true, rest'⟩ else ⟨form, q, false, rest⟩
        | _ => ⟨form, q, false, rest⟩
    else none
  | [] => none

/-- Whether a text goes on with the closing quotes of another. -/
def closesText (s : TextStart) (cs : List Char) : Bool :=
  Text.startsWith (List.replicate (if s.tripled then 3 else 1) s.quote) cs

/-- The fault of a text in quotes that is never closed, with the line where that is seen. -/
def unclosedText (s : TextStart) (line : Nat) : String :=
  "unterminated " ++ (if s.tripled then "triple-quoted " else "") ++
    "string literal (detected at line " ++ toString line ++ ")"

/-- The body of a text up to its closing quote, last character first, from a line on. A character
behind a backslash closes nothing. -/
def textBody (s : TextStart) (line : Nat) (body : List Char) :
    List Char → Except String (List Char × List Char)
  | [] => .error (unclosedText s line)
  | c :: cs =>
    if closesText s (c :: cs) then
      .ok (body.reverse, cs.drop (if s.tripled then 2 else 0))
    else if c = '\n' ∧ ¬ s.tripled then .error (unclosedText s line)
    else if c = '\\' then
      match cs with
      | d :: ds => textBody s (if d = '\n' then line + 1 else line) (d :: c :: body) ds
      | [] => .error (unclosedText s line)
    else textBody s (if c = '\n' then line + 1 else line) (c :: body) cs

/-- A bracket that is open, and the line where it was opened. -/
structure OpenBracket where
  bracket : Char
  line : Nat

/-- The most brackets that may be open. -/
def maxBrackets : Nat := 200

/-- The open brackets behind a sign. -/
def brackets (opened : List OpenBracket) (line : Nat) (c : Char) :
    Except String (List OpenBracket) :=
  if c = '(' ∨ c = '[' ∨ c = '{' then
    if maxBrackets ≤ opened.length then .error "too many nested parentheses"
    else .ok (⟨c, line⟩ :: opened)
  else if c = ')' ∨ c = ']' ∨ c = '}' then
    match opened with
    | [] => .error ("unmatched '" ++ String.singleton c ++ "'")
    | o :: outer =>
      if closing o.bracket = c then .ok outer
      else .error ("closing parenthesis '" ++ String.singleton c ++
        "' does not match opening parenthesis '" ++ String.singleton o.bracket ++ "'" ++
        (if o.line = line then "" else " on line " ++ toString o.line))
  else .ok opened

/-- The column that blanks at the front of a line lead to. -/
def indentation (cs : List Char) : Nat :=
  cs.foldl (fun n c => if c = ' ' then n + 1 else if c = '\t' then (n / 8 + 1) * 8 else 0) 0

/-- The reason why a text that ends with open brackets is no expression. -/
def OpenBracket.reason (o : OpenBracket) : String :=
  "'" ++ String.singleton o.bracket ++ "' was never closed"

/-- The end of a text, which a backslash may have said to go on. -/
def lastToken (opened : List OpenBracket) (goesOn : Bool) : Token :=
  match opened with
  | o :: _ => .broken o.reason
  | [] => if goesOn then .broken "unexpected EOF while parsing" else .finish

/-- The token of a backslash that does not stand at the end of a line. -/
def strayBackslash : Token := .broken "unexpected character after line continuation character"

/-- What a text is made of: its tokens up to the first that is broken, the fault of that token if it
counts wherever it stands, and the brackets open behind the last one. -/
structure Scan where
  tokens : List LevelToken
  fault? : Option String
  opened : List OpenBracket

/-- One more token before others. -/
def Scan.cons (token : LevelToken) (s : Scan) : Scan := { s with tokens := token :: s.tokens }

/-- One token at the front of a text that starts with no gap, the open brackets and the line behind
it, and the rest of the text. -/
def scanOne (opened : List OpenBracket) (line : Nat) (cs : List Char) :
    Except String (Token × List OpenBracket × Nat × List Char) := do
  match textStart? cs with
  | some s =>
    let (body, rest) ← textBody s line [] s.rest
    return (.text s.form body, opened, line + body.count '\n', rest)
  | none =>
    if Number.startsDecimal cs || (cs.head? == some '.' && Number.startsDecimal cs.tail) then
      let rest ← Number.scan cs
      return (.number (cs.take (cs.length - rest.length)), opened, line, rest)
    let name := cs.takeWhile isNameLike
    if !name.isEmpty then
      checkName name
      return (.name (String.ofList name), opened, line, cs.drop name.length)
    match longSigns.find? fun s => Text.startsWith s.toList cs with
    | some s => return (.sign s, opened, line, cs.drop s.length)
    | none =>
      match cs with
      | [] => throw ""
      | c :: rest =>
        if !Text.isPrintable c then throw (strayCharacter c)
        return (.sign (String.singleton c), ← brackets opened line c, line, rest)

/-- The tokens of a text, given a bound for their number, the open brackets, the line, and whether a
line starts here. -/
def scanFrom : Nat → List OpenBracket → Nat → Bool → List Char → Scan
  | 0, opened, line, _, _ => ⟨[⟨lastToken opened false, opened.length, line⟩], none, opened⟩
  | bound + 1, opened, line, fresh, cs =>
    let last (token : Token) : Scan := ⟨[⟨token, opened.length, line⟩], none, opened⟩
    let gap := cs.takeWhile isGap
    match cs.drop gap.length with
    | [] => last (lastToken opened false)
    | '#' :: ds =>
      let rest := ds.dropWhile (· != '\n')
      if fresh then scanFrom bound opened (line + 1) true (rest.drop 1)
      else scanFrom bound opened line false rest
    | '\n' :: ds =>
      if fresh || !opened.isEmpty then scanFrom bound opened (line + 1) opened.isEmpty ds
      else (scanFrom bound opened (line + 1) true ds).cons ⟨.newline, 0, line⟩
    | '\\' :: ds =>
      match ds with
      | ['\n'] => last (lastToken opened true)
      | '\n' :: es => scanFrom bound opened (line + 1) false es
      | _ => last strayBackslash
    | c :: ds =>
      let rest : Scan :=
        match scanOne opened line (c :: ds) with
        | .error e => { last (.broken e) with fault? := some e }
        | .ok (token, opened', line', rest) =>
          (scanFrom bound opened' line' false rest).cons ⟨token, opened'.length, line⟩
      if fresh && 0 < indentation gap then rest.cons ⟨.indent, 0, line⟩ else rest

/-- A text in which every line ends in a line feed. -/
def withLineFeeds : List Char → List Char
  | [] => []
  | '\r' :: '\n' :: cs => '\n' :: withLineFeeds cs
  | c :: cs => (if c = '\r' then '\n' else c) :: withLineFeeds cs

/-- The tokens of a text. -/
def scan (cs : List Char) : Scan :=
  let ds := withLineFeeds cs
  scanFrom (2 * ds.length + 1) [] 1 true ds

end CodeGraph.Literal
