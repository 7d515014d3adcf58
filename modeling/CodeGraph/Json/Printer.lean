import CodeGraph.Document.Value

/-!
# Writing JSON

A value is written on one line, with a space after each comma and colon, or over indented lines.
All characters beyond ASCII are escaped as UTF-16 code units, so the text is plain ASCII.
-/
namespace CodeGraph.Json

/-- The escape of a UTF-16 code unit. -/
def unitEscape (n : Nat) : List Char := '\\' :: 'u' :: Text.hexDigits 4 n

/-- How a character is written inside a text. -/
def charForm (c : Char) : List Char :=
  if c = '"' ∨ c = '\\' then ['\\', c]
  else if c = '\n' then ['\\', 'n']
  else if c = '\r' then ['\\', 'r']
  else if c = '\t' then ['\\', 't']
  else if c.toNat = 8 then ['\\', 'b']
  else if c.toNat = 12 then ['\\', 'f']
  else if 0x20 ≤ c.toNat ∧ c.toNat ≤ 0x7e then [c]
  else if c.toNat < 0x10000 then unitEscape c.toNat
  else
    let n := c.toNat - 0x10000
    unitEscape (0xD800 + n / 0x400) ++ unitEscape (0xDC00 + n % 0x400)

/-- A text between quotes. -/
def textForm (s : String) : String :=
  String.ofList ('"' :: s.toList.flatMap charForm ++ ['"'])

/-- A number. The numbers without digits go by their names. -/
def numberForm : Number → String
  | .int n => toString n
  | .float (.nan _) => "NaN"
  | .float (.infinite negative) => if negative then "-Infinity" else "Infinity"
  | .float x => x.text

/-- A key, which is written as a text whatever it is. -/
def keyForm : Key → String
  | .null => textForm "null"
  | .bool b => textForm (if b then "true" else "false")
  | .number n => textForm (numberForm n)
  | .text s => textForm s

/-- A value other than a list or an object. -/
def scalarForm : Value → String
  | .null => "null"
  | .bool b => if b then "true" else "false"
  | .number n => numberForm n
  | .text s => textForm s
  | .moment m => textForm m.text
  | _ => ""

mutual

/-- A value on one line. -/
def line : Value → String
  | .list vs => "[" ++ String.intercalate ", " (lineItems vs) ++ "]"
  | .object es => "\x7b" ++ String.intercalate ", " (lineEntries es) ++ "\x7d"
  | v => scalarForm v

/-- List members, each on one line. -/
def lineItems : List Value → List String
  | [] => []
  | v :: vs => line v :: lineItems vs

/-- Object entries, each on one line. -/
def lineEntries : List (Key × Value) → List String
  | [] => []
  | (k, v) :: es => (keyForm k ++ ": " ++ line v) :: lineEntries es

end

/-- A line break and the indentation of a depth, two spaces for each level. -/
def breakLine (depth : Nat) : String :=
  "\n" ++ String.ofList (List.replicate (2 * depth) ' ')

mutual

/-- A value over indented lines, its first line standing at a depth. -/
def indentedAt (depth : Nat) : Value → String
  | .list [] => "[]"
  | .object [] => "\x7b\x7d"
  | .list vs =>
    "[" ++ breakLine (depth + 1) ++
      String.intercalate ("," ++ breakLine (depth + 1)) (indentedItems (depth + 1) vs) ++
      breakLine depth ++ "]"
  | .object es =>
    "\x7b" ++ breakLine (depth + 1) ++
      String.intercalate ("," ++ breakLine (depth + 1)) (indentedEntries (depth + 1) es) ++
      breakLine depth ++ "\x7d"
  | v => scalarForm v

/-- List members over indented lines. -/
def indentedItems (depth : Nat) : List Value → List String
  | [] => []
  | v :: vs => indentedAt depth v :: indentedItems depth vs

/-- Object entries over indented lines. -/
def indentedEntries (depth : Nat) : List (Key × Value) → List String
  | [] => []
  | (k, v) :: es => (keyForm k ++ ": " ++ indentedAt depth v) :: indentedEntries depth es

end

/-- A value over indented lines. -/
def indented (v : Value) : String := indentedAt 0 v

end CodeGraph.Json
