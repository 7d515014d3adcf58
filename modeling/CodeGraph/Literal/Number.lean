import CodeGraph.Literal.Token
import CodeGraph.Text.Numeral
import CodeGraph.Text.Split

/-!
# Numbers in literals

Whole numbers in four number systems, decimal fractions with exponents, and imaginary numbers.
Single underscores may stand between digits. Behind a number no name may start, but for the words
that join two values.

Main definitions:

- `Number.scan`: what is left of a text behind the number at its front.
-/
namespace CodeGraph.Literal.Number

/-- The fault of a number of a kind. -/
def invalid (kind : String) : String := "invalid " ++ kind ++ " literal"

/-- The words that may follow a number without a blank. -/
def joiningWords : List String := ["and", "else", "for", "or", "not"]

/-- The words of which any letters may follow a number and stand before others. -/
def joiningStarts : List String := ["if", "in", "is"]

/-- Whether a text starts with a word that joins a number to what follows. -/
def startsJoining (cs : List Char) : Bool :=
  joiningStarts.any (fun w => Text.startsWith w.toList cs) ||
    joiningWords.any fun w =>
      Text.startsWith w.toList cs && !(cs.drop w.length).head?.any isNameLike

/-- Look at what follows a number of a kind. A character beyond ASCII is left to be looked at on its
own. -/
def finish (kind : String) (cs : List Char) : Except String (List Char) :=
  if startsJoining cs then .ok cs
  else if cs.head?.any (fun c => c.isAlphanum || c == '_') then .error (invalid kind)
  else .ok cs

/-- Whether a text goes on with a decimal digit. -/
def startsDecimal (cs : List Char) : Bool := cs.head?.any Text.isDecimal

/-- What follows decimal digits. -/
def decimals : List Char → Except String (List Char)
  | [] => .ok []
  | c :: cs =>
    if Text.isDecimal c then decimals cs
    else if c = '_' then
      if startsDecimal cs then decimals cs else .error (invalid "decimal")
    else .ok (c :: cs)

/-- What follows zeros. -/
def zeros : List Char → Except String (List Char)
  | [] => .ok []
  | c :: cs =>
    if c = '0' then zeros cs
    else if c = '_' then if startsDecimal cs then zeros cs else .error (invalid "decimal")
    else .ok (c :: cs)

/-- What follows the mark of an imaginary number, or a number without one. -/
def imaginary (cs : List Char) : Except String (List Char) :=
  match cs with
  | c :: ds => if c = 'j' ∨ c = 'J' then finish "imaginary" ds else finish "decimal" cs
  | [] => .ok []

/-- What follows an exponent, or a number without one. -/
def exponent (cs : List Char) : Except String (List Char) :=
  match cs with
  | c :: ds =>
    if c = 'e' ∨ c = 'E' then
      match ds with
      | '+' :: es | '-' :: es =>
        if startsDecimal es then decimals es >>= imaginary else .error (invalid "decimal")
      | _ => if startsDecimal ds then decimals ds >>= imaginary else finish "decimal" cs
    else imaginary cs
  | [] => .ok []

/-- What follows the digits behind a point. -/
def fraction (cs : List Char) : Except String (List Char) := decimalsOrNone cs >>= exponent
where
  /-- What follows digits, if there are any. -/
  decimalsOrNone (cs : List Char) : Except String (List Char) :=
    if startsDecimal cs then decimals cs else .ok cs

/-- A number system: its kind, its digits, and whether other digits are named in faults. -/
structure System where
  kind : String
  isDigit : Char → Bool
  namesDigits : Bool

/-- The fault of a character in the place of a digit. -/
def System.fault (s : System) (c : Option Char) : String :=
  match c with
  | some c =>
    if s.namesDigits && Text.isDecimal c then
      "invalid digit '" ++ String.singleton c ++ "' in " ++ s.kind ++ " literal"
    else invalid s.kind
  | none => invalid s.kind

/-- What follows the digits of a number system, of which there must be one next when the flag is
set. -/
def System.digits (s : System) (needed : Bool) : List Char → Except String (List Char)
  | [] => if needed then .error (s.fault none) else .ok []
  | c :: cs =>
    if s.isDigit c then s.digits false cs
    else if needed then .error (s.fault (some c))
    else if c = '_' then s.digits true cs
    else if s.namesDigits && Text.isDecimal c then .error (s.fault (some c))
    else finish s.kind (c :: cs)

/-- The digits of a number system behind its sign, which an underscore may follow. -/
def System.scan (s : System) (cs : List Char) : Except String (List Char) :=
  match cs with
  | '_' :: ds => s.digits true ds
  | _ => s.digits true cs

/-- The number system of a letter behind a zero. -/
def system? (c : Char) : Option System :=
  if c = 'x' ∨ c = 'X' then some ⟨"hexadecimal", Text.isHex, false⟩
  else if c = 'o' ∨ c = 'O' then some ⟨"octal", fun d => '0' ≤ d && d ≤ '7', true⟩
  else if c = 'b' ∨ c = 'B' then some ⟨"binary", fun d => d == '0' || d == '1', true⟩
  else none

/-- The fault of a decimal number that starts with a zero. -/
def leadingZeros : String :=
  "leading zeros in decimal integer literals are not permitted; " ++
    "use an 0o prefix for octal integers"

/-- What follows a decimal number behind its zero. Only a fraction or an imaginary number has more
digits behind a zero. -/
def afterZero (cs : List Char) : Except String (List Char) := do
  let ds ← zeros cs
  let es ← if startsDecimal ds then decimals ds else pure ds
  match es with
  | '.' :: fs => fraction fs
  | c :: _ =>
    if c = 'e' ∨ c = 'E' then exponent es
    else if c = 'j' ∨ c = 'J' then imaginary es
    else if startsDecimal ds then throw leadingZeros
    else finish "decimal" es
  | [] => if startsDecimal ds then throw leadingZeros else pure []

/-- What is left of a text behind the number at its front, which starts with a digit or with a point
and a digit. -/
def scan (cs : List Char) : Except String (List Char) :=
  match cs with
  | '.' :: ds => fraction ds
  | '0' :: c :: ds =>
    match system? c with
    | some s => s.scan ds
    | none => afterZero (c :: ds)
  | '0' :: ds => afterZero ds
  | _ => do
    match ← decimals cs with
    | '.' :: ds => fraction ds
    | ds => exponent ds

end CodeGraph.Literal.Number
