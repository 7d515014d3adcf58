import CodeGraph.Literal.Token
import CodeGraph.Text.Numeral

/-!
# Escapes in texts

A backslash in the body of a text starts an escape. Escapes with digits need all of them. Places in
a body count an ASCII character once and all others ten times.

Main definitions:

- `textFault?`: what is wrong with texts that stand in a row.
-/
namespace CodeGraph.Literal

/-- The fault of an escape between two places. -/
def escapeFault (start stop : Nat) (reason : String) : String :=
  "(unicode error) 'unicodeescape' codec can't decode bytes in position " ++ toString start ++
    "-" ++ toString (stop - 1) ++ ": " ++ reason

/-- Whether a character is an ASCII character. -/
def isAscii (c : Char) : Bool := c.toNat < 0x80

/-- The places that characters take. -/
def places (cs : List Char) : Nat := cs.foldl (fun n c => n + if isAscii c then 1 else 10) 0

/-- What is wrong with an escape of hexadecimal digits at a place, given what follows its letter. -/
def digitsFault? (place count : Nat) (shape : String) (cs : List Char) : Option String :=
  let digits := (cs.take count).takeWhile Text.isHex
  let stop := place + 2 + digits.length
  if digits.length < count then some (escapeFault place stop ("truncated " ++ shape ++ " escape"))
  else if 0x10ffff < Text.radixValue 16 digits then
    some (escapeFault place stop "illegal Unicode character")
  else none

/-- What is wrong with an escape of a name in braces at a place. -/
def nameFault? (place : Nat) (cs : List Char) : Option String :=
  let malformed (stop : Nat) := some (escapeFault place stop "malformed \\N character escape")
  match cs with
  | '\x7b' :: ds =>
    let name := ds.takeWhile (· != '\x7d')
    if name.length = ds.length || name.isEmpty then malformed (place + 3 + places name) else none
  | _ => malformed (place + 2)

/-- What is wrong with the escape of a letter at a place. -/
def letterFault? (place : Nat) (letter : Char) (cs : List Char) : Option String :=
  match letter with
  | 'x' => digitsFault? place 2 "\\xXX" cs
  | 'u' => digitsFault? place 4 "\\uXXXX" cs
  | 'U' => digitsFault? place 8 "\\UXXXXXXXX" cs
  | 'N' => nameFault? place cs
  | _ => none

/-- What is wrong with the escapes of a body from a place on. A backslash before a character beyond
ASCII takes six places. -/
def escapesFault? (place : Nat) : List Char → Option String
  | '\\' :: c :: cs =>
    (letterFault? place c cs).orElse fun _ =>
      escapesFault? (place + if isAscii c then 2 else 16) cs
  | c :: cs => escapesFault? (place + if isAscii c then 1 else 10) cs
  | [] => none

/-- What is wrong with the escapes of bytes from a place on. -/
def bytesFault? (place : Nat) : List Char → Option String
  | '\\' :: c :: cs =>
    if c = 'x' ∧ ((cs.take 2).takeWhile Text.isHex).length < 2 then
      some ("(value error) invalid \\x escape at position " ++ toString place)
    else bytesFault? (place + 2) cs
  | _ :: cs => bytesFault? (place + 1) cs
  | [] => none

/-- Whether a character encloses an expression in a text. -/
def isBrace (c : Char) : Bool := c == '\x7b' || c == '\x7d'

/-- What is wrong with one text. Texts with expressions in them are let through. -/
def bodyFault? (form : TextForm) (body : List Char) : Option String :=
  if form.formatted && body.any isBrace then none
  else if form.bytes then
    if !body.all isAscii then some "bytes can only contain ASCII literal characters"
    else if form.raw then none
    else bytesFault? 0 body
  else if form.raw then none
  else escapesFault? 0 body

/-- What is wrong with texts that stand in a row behind one of a form. All of them are bytes, or
none is. -/
def rowFault? (bytes : Bool) : List (TextForm × List Char) → Option String
  | [] => none
  | (form, body) :: texts =>
    (bodyFault? form body).orElse fun _ =>
      if form.bytes = bytes then rowFault? bytes texts
      else some "cannot mix bytes and nonbytes literals"

/-- What is wrong with texts that stand in a row. -/
def textFault? (texts : List (TextForm × List Char)) : Option String :=
  rowFault? (texts.head?.any fun t => t.1.bytes) texts

end CodeGraph.Literal
