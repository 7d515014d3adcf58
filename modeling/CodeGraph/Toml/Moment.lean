import CodeGraph.Document.Moment
import CodeGraph.Text.Numeral
import CodeGraph.Toml.Basic

/-!
# TOML: dates and times

A date is followed by a time when the letter T or a single space and a complete time stand behind
it; only then an offset from universal time may follow. Of a fraction of a second the first six
digits count. A date that has the form of one but is not in the calendar breaks the grammar.
-/
namespace CodeGraph.Toml

/-- A number of exactly so many digits. -/
def fixedDigits? (width : Nat) (cs : List Char) : Option (Nat × List Char) :=
  let digits := cs.take width
  if digits.length = width ∧ digits.all Text.isDecimal then
    some (Text.decimalValue digits, cs.drop width)
  else none

/-- A number of exactly so many digits behind a mark. -/
def markedDigits? (mark : Char) (width : Nat) : List Char → Option (Nat × List Char)
  | c :: cs => if c = mark then fixedDigits? width cs else none
  | [] => none

/-- The microseconds of a fraction of a second. A point without a digit behind it is left. -/
def fractionMicros : List Char → Nat × List Char
  | '.' :: cs =>
    match cs.takeWhile Text.isDecimal with
    | [] => (0, '.' :: cs)
    | digits =>
      let counted := digits.take 6
      (Text.decimalValue counted * Nat.pow 10 (6 - counted.length), cs.dropWhile Text.isDecimal)
  | cs => (0, cs)

/-- A time of day. -/
def clock? (cs : List Char) : Option (Clock × List Char) := do
  let (hour, cs) ← fixedDigits? 2 cs
  let (minute, cs) ← markedDigits? ':' 2 cs
  let (second, cs) ← markedDigits? ':' 2 cs
  if hour < 24 ∧ minute < 60 ∧ second < 60 then
    let (micro, rest) := fractionMicros cs
    some (⟨hour, minute, second, micro⟩, rest)
  else none

/-- The form of a date, whether it is in the calendar or not. -/
def date? (cs : List Char) : Option (Date × List Char) := do
  let (year, cs) ← fixedDigits? 4 cs
  let (month, cs) ← markedDigits? '-' 2 cs
  let (day, cs) ← markedDigits? '-' 2 cs
  if 1 ≤ month ∧ month ≤ 12 ∧ 1 ≤ day ∧ day ≤ 31 then some (⟨year, month, day⟩, cs) else none

/-- The minutes of an offset behind its sign. -/
def offsetMinutes? (cs : List Char) : Option (Nat × List Char) := do
  let (hours, cs) ← fixedDigits? 2 cs
  let (minutes, cs) ← markedDigits? ':' 2 cs
  if hours < 24 ∧ minutes < 60 then some (hours * 60 + minutes, cs) else none

/-- An offset from universal time in minutes; none when there is no complete one. -/
def offset? : List Char → Option Int × List Char
  | [] => (none, [])
  | c :: cs =>
    if c = 'Z' ∨ c = 'z' then (some 0, cs)
    else if c = '+' ∨ c = '-' then
      match offsetMinutes? cs with
      | some (n, rest) => (some (if c = '-' then -(n : Int) else n), rest)
      | none => (none, c :: cs)
    else (none, c :: cs)

/-- The time behind a date and the mark between them. -/
def timeOfDate? : List Char → Option (Clock × List Char)
  | c :: cs => if c = 'T' ∨ c = 't' ∨ c = ' ' then clock? cs else none
  | [] => none

/-- A date, a time, or both, at the front of a text. -/
def moment? (cs : List Char) : Option (Result Moment) :=
  match date? cs with
  | some (d, rest) =>
    if d.isValid then
      match timeOfDate? rest with
      | some (t, rest) =>
        let (offset, rest) := offset? rest
        some (.ok (.dateTime d t offset, rest))
      | none => some (.ok (.date d, rest))
    else some (.error .badSyntax)
  | none => (clock? cs).map fun r => .ok (.time r.1, r.2)

end CodeGraph.Toml
