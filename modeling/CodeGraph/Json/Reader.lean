import CodeGraph.Document.Fault
import CodeGraph.Text.Split

/-!
# Reading JSON

The reader works on lists of characters and keeps no positions: where it stops, it hands back what
is left of the text, and the line, column and offset of the stop are counted from that. Besides the
standard values it reads the names of the three numbers that have no digits. An object whose key
comes twice keeps the key's first place and its last value. Lists and objects are nested up to a
limit.

Main definitions:

- `value`, `items`, `members`: the grammar, structural on a bound for the depth;
- `read`: a whole document, with the bound taken from its length.
-/
namespace CodeGraph.Json

/-- What the reader missed or met. -/
inductive Problem where
  | expectedValue
  | expectedKey
  | expectedColon
  | expectedComma
  | unterminatedText
  | controlCharacter
  | badEscape
  | badCodeEscape
  | extraData
  | byteOrderMark
  deriving DecidableEq, Repr

/-- The wording of a problem. -/
def Problem.message : Problem → String
  | .expectedValue => "Expecting value"
  | .expectedKey => "Expecting property name enclosed in double quotes"
  | .expectedColon => "Expecting ':' delimiter"
  | .expectedComma => "Expecting ',' delimiter"
  | .unterminatedText => "Unterminated string starting at"
  | .controlCharacter => "Invalid control character at"
  | .badEscape => "Invalid \\escape"
  | .badCodeEscape => "Invalid \\uXXXX escape"
  | .extraData => "Extra data"
  | .byteOrderMark => "Unexpected UTF-8 BOM (decode using utf-8-sig)"

/-- A problem and where it is. Lines and columns count from one, the offset from zero. -/
structure SyntaxFault where
  problem : Problem
  line : Nat
  column : Nat
  offset : Nat
  deriving DecidableEq, Repr

/-- The message of a problem with its place. -/
def SyntaxFault.message (f : SyntaxFault) : String :=
  s!"{f.problem.message}: line {f.line} column {f.column} (char {f.offset})"

/-- Why a text could not be read: it breaks the grammar, or a value in it is at fault. -/
inductive ReadFault where
  | badSyntax (fault : SyntaxFault)
  | badValue (fault : Fault)
  deriving DecidableEq, Repr

/-- Where the reader stopped: what is left of the text from the problem on, unless a value is at
fault. -/
inductive Stop where
  | problem (p : Problem) (rest : List Char)
  | badValue (fault : Fault)

/-- A reader takes something off the front of a text. -/
abbrev Result (α : Type) := Except Stop (α × List Char)

/-- Whether a character may stand between tokens. -/
def isSpace (c : Char) : Bool := c == ' ' || c == '\t' || c == '\n' || c == '\r'

/-- A text without the spaces in front. -/
def skipSpaces (cs : List Char) : List Char := cs.dropWhile isSpace

/-- Whether a code unit is the first half of a surrogate pair. -/
def isHighSurrogate (n : Nat) : Bool := 0xD800 ≤ n && n < 0xDC00

/-- Whether a code unit is the second half of a surrogate pair. -/
def isLowSurrogate (n : Nat) : Bool := 0xDC00 ≤ n && n < 0xE000

/-- The character of a code unit. Half a pair is no character, so no `Char` can hold it, and U+FFFD
stands for it. This departs from readers whose texts may hold such halves, which keep them: here ids
that differ only there become one. -/
def unitChar (n : Nat) : Char :=
  if isHighSurrogate n || isLowSurrogate n then Char.ofNat 0xFFFD else Char.ofNat n

/-- The character of an escape with one letter. -/
def escaped? : Char → Option Char
  | '"' => some '"'
  | '\\' => some '\\'
  | '/' => some '/'
  | 'b' => some (Char.ofNat 8)
  | 'f' => some (Char.ofNat 12)
  | 'n' => some '\n'
  | 'r' => some '\r'
  | 't' => some '\t'
  | _ => none

/-- The characters of code units, where a surrogate pair makes one character. -/
def fromUnits : List Nat → List Char
  | high :: low :: ns =>
    if isHighSurrogate high && isLowSurrogate low then
      Char.ofNat (0x10000 + (high - 0xD800) * 0x400 + (low - 0xDC00)) :: fromUnits ns
    else unitChar high :: fromUnits (low :: ns)
  | [n] => [unitChar n]
  | [] => []

/-- The rest of a text up to its closing quote, given the whole text from its opening quote on and
the code units read so far, last one first. An escape with a code needs a character behind it. -/
def textTail (start : List Char) (done : List Nat) : List Char → Result String
  | [] => .error (.problem .unterminatedText start)
  | '"' :: cs => .ok (String.ofList (fromUnits done.reverse), cs)
  | '\\' :: 'u' :: a :: b :: c :: d :: cs =>
    match cs.isEmpty, Text.hexNumber? [a, b, c, d] with
    | false, some n => textTail start (n :: done) cs
    | _, _ => .error (.problem .badCodeEscape ('u' :: a :: b :: c :: d :: cs))
  | '\\' :: 'u' :: cs => .error (.problem .badCodeEscape ('u' :: cs))
  | ['\\'] => .error (.problem .unterminatedText start)
  | '\\' :: c :: cs =>
    match escaped? c with
    | some c' => textTail start (c'.toNat :: done) cs
    | none => .error (.problem .badEscape ('\\' :: c :: cs))
  | c :: cs =>
    if c.toNat < 0x20 then .error (.problem .controlCharacter (c :: cs))
    else textTail start (c.toNat :: done) cs

/-- The digits of a fraction, which needs at least one. -/
def fractionDigits (cs : List Char) : List Char × List Char :=
  match cs with
  | '.' :: ds =>
    match ds.takeWhile Text.isDecimal with
    | [] => ([], cs)
    | digits => (digits, ds.dropWhile Text.isDecimal)
  | _ => ([], cs)

/-- An exponent, which needs at least one digit. -/
def exponentPart (cs : List Char) : Option Int × List Char :=
  let unsigned (sign : Int) (ds : List Char) : Option Int × List Char :=
    match ds.takeWhile Text.isDecimal with
    | [] => (none, cs)
    | digits => (some (sign * Text.decimalValue digits), ds.dropWhile Text.isDecimal)
  match cs with
  | c :: ds =>
    if c = 'e' ∨ c = 'E' then
      match ds with
      | '+' :: es => unsigned 1 es
      | '-' :: es => unsigned (-1) es
      | _ => unsigned 1 ds
    else (none, cs)
  | [] => (none, cs)

/-- The digits in front of the point: a single zero, or a run that starts with another digit. -/
def wholeDigits (cs : List Char) : List Char × List Char :=
  match cs with
  | '0' :: ds => (['0'], ds)
  | _ => (cs.takeWhile Text.isDecimal, cs.dropWhile Text.isDecimal)

/-- A number without its sign. A fraction or an exponent makes it a double. -/
def unsignedNumber (start : List Char) (negative : Bool) (cs : List Char) : Result Value :=
  let (whole, cs₁) := wholeDigits cs
  if whole.isEmpty then .error (.problem .expectedValue start)
  else
    let (fraction, cs₂) := fractionDigits cs₁
    let (exponent, cs₃) := exponentPart cs₂
    if fraction.isEmpty && exponent.isNone then
      if maxDigits < whole.length then .error (.badValue (.tooManyDigits whole.length))
      else
        let n : Int := Text.decimalValue whole
        .ok (.int (if negative then -n else n), cs₃)
    else
      let digits := Text.decimalValue (whole ++ fraction)
      let x := Double.ofDecimal negative digits (exponent.getD 0 - fraction.length)
      .ok (.number (.float x), cs₃)

/-- The values that are written as a name. -/
def names : List (String × Value) :=
  [("null", .null), ("true", .bool true), ("false", .bool false),
    ("NaN", .number (.float (.nan 0))), ("Infinity", .number (.float (.infinite false))),
    ("-Infinity", .number (.float (.infinite true)))]

/-- A value that is written as a name. -/
def named? (cs : List Char) : Option (Value × List Char) :=
  names.findSome? fun e => (Text.dropPrefix? e.1.toList cs).map fun rest => (e.2, rest)

/-- A scalar value other than a text. -/
def scalar (cs : List Char) : Result Value :=
  match named? cs with
  | some r => .ok r
  | none =>
    match cs with
    | '-' :: ds => unsignedNumber cs true ds
    | _ => unsignedNumber cs false cs

/-- How deep lists and objects may be nested. Neither the format nor a reader names this number: it
stands for the recursion limit of the interpreter that a reader runs on, less the frames of its
callers. -/
def maxNesting : Nat := 980

/-- The stop at a list or an object that is nested too deeply. -/
def tooDeep (shape : String) : Stop :=
  .badValue (.tooDeep (" while decoding a JSON " ++ shape ++ " from a unicode string"))

mutual

/-- A value at the front of a text, given how many more lists and objects may be opened. -/
def value : Nat → Nat → List Char → Result Value
  | 0, _, cs => .error (.problem .expectedValue cs)
  | depth + 1, room, cs =>
    match cs with
    | '"' :: ds => (textTail cs [] ds).map fun r => (.text r.1, r.2)
    | '[' :: ds =>
      if room = 0 then .error (tooDeep "array")
      else
        match skipSpaces ds with
        | ']' :: es => .ok (.list [], es)
        | es => items depth (room - 1) [] es
    | '{' :: ds =>
      if room = 0 then .error (tooDeep "object")
      else
        match skipSpaces ds with
        | '}' :: es => .ok (.object [], es)
        | es => members depth (room - 1) [] es
    | _ => scalar cs

/-- The rest of a list from one of its members on, given the members before it, last one first. -/
def items : Nat → Nat → List Value → List Char → Result Value
  | 0, _, _, cs => .error (.problem .expectedValue cs)
  | depth + 1, room, done, cs =>
    match value depth room cs with
    | .error e => .error e
    | .ok (v, ds) =>
      match skipSpaces ds with
      | ']' :: es => .ok (.list (v :: done).reverse, es)
      | ',' :: es => items depth room (v :: done) (skipSpaces es)
      | es => .error (.problem .expectedComma es)

/-- The rest of an object from one of its keys on, given the entries before it. -/
def members : Nat → Nat → List (Key × Value) → List Char → Result Value
  | 0, _, _, cs => .error (.problem .expectedValue cs)
  | depth + 1, room, done, cs =>
    match cs with
    | '"' :: ds =>
      match textTail cs [] ds with
      | .error e => .error e
      | .ok (key, es) =>
        match skipSpaces es with
        | ':' :: fs =>
          match value depth room (skipSpaces fs) with
          | .error e => .error e
          | .ok (v, gs) =>
            let entries := Value.setEntry (.text key) v done
            match skipSpaces gs with
            | '}' :: hs => .ok (.object entries, hs)
            | ',' :: hs => members depth room entries (skipSpaces hs)
            | hs => .error (.problem .expectedComma hs)
        | fs => .error (.problem .expectedColon fs)
    | _ => .error (.problem .expectedKey cs)

end

/-- The line and column of an offset, both from one. -/
def place (cs : List Char) (offset : Nat) : Nat × Nat :=
  let front := cs.take offset
  (front.count '\n' + 1, (front.reverse.takeWhile (· != '\n')).length + 1)

/-- A stop as a fault of the whole text. -/
def Stop.toFault (cs : List Char) : Stop → ReadFault
  | .badValue f => .badValue f
  | .problem p rest =>
    let offset := cs.length - rest.length
    let (line, column) := place cs offset
    .badSyntax ⟨p, line, column, offset⟩

/-- The value of a whole document. -/
def readStopping (cs : List Char) : Except Stop Value :=
  match cs with
  | '\ufeff' :: _ => .error (.problem .byteOrderMark cs)
  | _ =>
    match value (2 * cs.length + 2) maxNesting (skipSpaces cs) with
    | .error e => .error e
    | .ok (v, rest) =>
      match skipSpaces rest with
      | [] => .ok v
      | ds => .error (.problem .extraData ds)

/-- The value of a whole document, or why it is none. -/
def read (cs : List Char) : Except ReadFault Value :=
  (readStopping cs).mapError (Stop.toFault cs)

end CodeGraph.Json
