import CodeGraph.Literal.NameTable
import CodeGraph.Text.Digit
import CodeGraph.Text.Word

/-!
# Tokens of literals

A literal is written in names, numbers, texts and signs. Every token knows how many brackets stay
open behind it.

Main definitions:

- `Token`, `LevelToken`: the tokens;
- `isNameStart`, `isNamePart`: the characters of names.
-/
namespace CodeGraph.Literal

/-- The letters in front of the quote of a text say how it is read: as bytes, without escapes, or
with expressions in it. -/
structure TextForm where
  bytes : Bool := false
  raw : Bool := false
  formatted : Bool := false
  deriving DecidableEq, Repr

/-- A token. Where a text stops short of what it began, a token says what is wrong. -/
inductive Token where
  | name (text : String)
  | number (digits : List Char)
  | text (form : TextForm) (body : List Char)
  | sign (text : String)
  | newline
  | indent
  | finish
  | broken (reason : String)
  deriving DecidableEq, Repr

/-- A token with its line and the number of brackets that are open behind it. -/
structure LevelToken where
  token : Token
  level : Nat
  line : Nat
  deriving DecidableEq, Repr

/-- The names with a meaning of their own. -/
def keywords : List String :=
  ["False", "None", "True", "and", "as", "assert", "async", "await", "break", "class", "continue",
    "def", "del", "elif", "else", "except", "finally", "for", "from", "global", "if", "import",
    "in", "is", "lambda", "nonlocal", "not", "or", "pass", "raise", "return", "try", "while",
    "with", "yield"]

/-- The names that have a meaning of their own in some places only. -/
def softKeywords : List String := ["match", "case", "_"]

/-- The names of statements of old, which took what they applied to without brackets. -/
def formerStatements : List String := ["print", "exec"]

/-- Whether a character may stand in a name, as far as ASCII goes; all others are let through. -/
def isNameLike (c : Char) : Bool := c.isAlphanum || c == '_' || 0x80 ≤ c.toNat

/-- Whether a character may stand in a name. -/
def isNamePart (c : Char) : Bool :=
  if c.toNat < 0x80 then c.isAlphanum || c == '_'
  else (Text.isWord c && !Text.inRanges numeralRanges c.toNat) || Text.inRanges markRanges c.toNat

/-- Whether a name may start with a character. -/
def isNameStart (c : Char) : Bool :=
  isNamePart c && !Text.isDigit c && !Text.inRanges markRanges c.toNat

end CodeGraph.Literal
