/-!
# Dates and times

The dates, times of day and points in time that a TOML document can hold, with the texts that are
shown for them. A point in time may carry its offset from universal time in minutes.
-/
namespace CodeGraph

/-- A day of the calendar. -/
structure Date where
  year : Nat
  month : Nat
  day : Nat
  deriving DecidableEq, Repr

/-- A time of day, to the microsecond. -/
structure Clock where
  hour : Nat
  minute : Nat
  second : Nat
  micro : Nat
  deriving DecidableEq, Repr

/-- A date, a time, or both. -/
inductive Moment where
  | date (d : Date)
  | time (t : Clock)
  | dateTime (d : Date) (t : Clock) (offset : Option Int)
  deriving DecidableEq, Repr

namespace Date

/-- Whether a year has a twenty-ninth of February. -/
def isLeapYear (y : Nat) : Bool := (y % 4 == 0 && y % 100 != 0) || y % 400 == 0

/-- The number of days in a month. -/
def daysIn (year month : Nat) : Nat :=
  if month = 2 then (if isLeapYear year then 29 else 28)
  else if month = 4 ∨ month = 6 ∨ month = 9 ∨ month = 11 then 30
  else 31

/-- Whether a day is in the calendar, which starts with year one. -/
def isValid (d : Date) : Bool :=
  1 ≤ d.year && 1 ≤ d.month && d.month ≤ 12 && 1 ≤ d.day && d.day ≤ daysIn d.year d.month

end Date

/-- A number with zeros in front, up to a width. -/
def padded (width n : Nat) : String :=
  let digits := toString n
  String.ofList (List.replicate (width - digits.length) '0') ++ digits

/-- The date as year, month and day. -/
def Date.text (d : Date) : String :=
  padded 4 d.year ++ "-" ++ padded 2 d.month ++ "-" ++ padded 2 d.day

/-- The time as hour, minute and second, with the microseconds when there are any. -/
def Clock.text (t : Clock) : String :=
  padded 2 t.hour ++ ":" ++ padded 2 t.minute ++ ":" ++ padded 2 t.second ++
    (if t.micro = 0 then "" else "." ++ padded 6 t.micro)

/-- An offset from universal time. -/
def offsetText (minutes : Int) : String :=
  (if minutes < 0 then "-" else "+") ++ padded 2 (minutes.natAbs / 60) ++ ":" ++
    padded 2 (minutes.natAbs % 60)

namespace Moment

/-- The plain text of a moment. -/
def text : Moment → String
  | .date d => d.text
  | .time t => t.text
  | .dateTime d t offset => d.text ++ " " ++ t.text ++ (offset.map offsetText).getD ""

/-- The parts of a time in a list of arguments; zeros at the end are left out. -/
def clockArguments (t : Clock) : String :=
  toString t.hour ++ ", " ++ toString t.minute ++
    (if t.micro ≠ 0 then ", " ++ toString t.second ++ ", " ++ toString t.micro
     else if t.second ≠ 0 then ", " ++ toString t.second
     else "")

/-- An offset in a list of arguments. A negative one counts back a day and forward from there. -/
def offsetArgument (minutes : Int) : String :=
  if minutes = 0 then "datetime.timezone.utc"
  else
    let seconds := (minutes * 60).toNat
    let span :=
      if 0 < minutes then "seconds=" ++ toString seconds
      else "days=-1, seconds=" ++ toString (86400 + minutes * 60).toNat
    "datetime.timezone(datetime.timedelta(" ++ span ++ "))"

/-- The text of a moment inside a list or an object. -/
def quotedText : Moment → String
  | .date d => s!"datetime.date({d.year}, {d.month}, {d.day})"
  | .time t => "datetime.time(" ++ clockArguments t ++ ")"
  | .dateTime d t offset =>
    s!"datetime.datetime({d.year}, {d.month}, {d.day}, " ++ clockArguments t ++
      (match offset with
        | none => ""
        | some minutes => ", tzinfo=" ++ offsetArgument minutes) ++ ")"

end Moment

end CodeGraph
