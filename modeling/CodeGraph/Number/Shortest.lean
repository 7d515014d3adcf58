import CodeGraph.Number.Double

/-!
# The decimal text of doubles

A double is written with the fewest digits that read back as the same double, and with those of them
that come nearest to it. Numbers from `10 ^ -4` up to `10 ^ 16` are written positionally, with a
fraction even when it is zero; all others have one digit before the point and an exponent of at
least two digits.
-/
namespace CodeGraph.Double

/-- A ratio of powers of ten: `10 ^ e` as numerator and denominator. -/
def powerOfTen (e : Int) : Nat × Nat :=
  if 0 ≤ e then (Nat.pow 10 e.toNat, 1) else (1, Nat.pow 10 (-e).toNat)

/-- The decimal order of magnitude of the positive ratio `num / den`: the `k` with
`10 ^ (k - 1) ≤ num / den < 10 ^ k`. -/
def magnitude (num den : Nat) : Int :=
  if den ≤ num then (Nat.toDigits 10 (num / den)).length
  else 1 - ((Nat.toDigits 10 ((den - 1) / num)).length : Int)

/-- The reals that round to a positive double, in quarters of its unit: lower end, value, upper
end. Below a power of two the neighbour is nearer. -/
def roundingInterval (mantissa shift : Nat) : Nat × Nat × Nat :=
  let lower := if mantissa = Nat.pow 2 52 ∧ 0 < shift then 1 else 2
  let unit := Nat.pow 2 shift
  ((4 * mantissa - lower) * unit, 4 * mantissa * unit, (4 * mantissa + 2) * unit)

/-- The point of the grid `10 ^ e` that is nearest to a positive double among those that round to
it. The ends of the interval round to the double when its mantissa is even. -/
def gridPoint? (mantissa shift : Nat) (e : Int) : Option Nat :=
  let (low, value, high) := roundingInterval mantissa shift
  let den := 4 * unitsPerOne
  let (up, down) := powerOfTen e
  let inside (c : Nat) : Bool :=
    let x := c * up * den
    if mantissa % 2 = 0 then low * down ≤ x && x ≤ high * down
    else low * down < x && x < high * down
  let c := value * down / (den * up)
  let below := value * down - c * up * den
  let above := (c + 1) * up * den - value * down
  match inside c, inside (c + 1) with
  | true, true =>
    some (if below < above then c else if above < below then c + 1 else c + c % 2)
  | true, false => some c
  | false, true => some (c + 1)
  | false, false => none

/-- The coefficient and exponent of the shortest decimal, tried with ever more digits. -/
def shortestFrom (mantissa shift : Nat) (k : Int) : Nat → Nat → Nat × Int
  | 0, count => (0, k - count)
  | fuel + 1, count =>
    match gridPoint? mantissa shift (k - count) with
    | some c => (c, k - count)
    | none => shortestFrom mantissa shift k fuel (count + 1)

/-- The shortest decimal `(c, e)`, meaning `c · 10 ^ e`, that reads back as a positive double.
Seventeen digits always do. -/
def shortest (mantissa shift : Nat) : Nat × Int :=
  let k := magnitude (mantissa * Nat.pow 2 shift) unitsPerOne
  shortestFrom mantissa shift k 17 1

/-- Positional notation starts with this decimal exponent. -/
def positionalFrom : Int := -4

/-- From this decimal exponent on, numbers are written with an exponent. -/
def positionalBelow : Int := 16

/-- The text of an exponent: a sign and at least two digits. -/
def exponentText (e : Int) : String :=
  let digits := toString e.natAbs
  (if e < 0 then "-" else "+") ++ (if digits.length < 2 then "0" ++ digits else digits)

/-- The text of the number `0.d₁d₂… · 10 ^ point`, without sign. -/
def digitsText (digits : List Char) (point : Int) : String :=
  if point - 1 < positionalFrom ∨ positionalBelow ≤ point - 1 then
    let fraction := digits.drop 1
    String.ofList (digits.take 1) ++
      (if fraction.isEmpty then "" else "." ++ String.ofList fraction) ++
      "e" ++ exponentText (point - 1)
  else if point ≤ 0 then
    "0." ++ String.ofList (List.replicate (-point).toNat '0' ++ digits)
  else
    let n := point.toNat
    let whole := digits.take n ++ List.replicate (n - digits.length) '0'
    let fraction := digits.drop n
    String.ofList whole ++ "." ++ (if fraction.isEmpty then "0" else String.ofList fraction)

/-- Decimal digits without the zeros at their end. -/
def trimZeros (digits : List Char) : List Char :=
  (digits.reverse.dropWhile (· == '0')).reverse

/-- The text of a double. -/
def text : Double → String
  | .nan _ => "nan"
  | .infinite negative => if negative then "-inf" else "inf"
  | .finite negative mantissa shift =>
    let sign := if negative then "-" else ""
    if mantissa = 0 then sign ++ "0.0"
    else
      let (c, e) := shortest mantissa shift
      let digits := Nat.toDigits 10 c
      sign ++ digitsText (trimZeros digits) (e + digits.length)

/-- The text of a finite double with two decimal places, rounded from its exact value. -/
def fixedText : Double → String
  | .finite negative mantissa shift =>
    let hundredths := roundHalfEven (mantissa * Nat.pow 2 shift * 100) unitsPerOne
    let fraction := toString (hundredths % 100)
    (if negative then "-" else "") ++ toString (hundredths / 100) ++ "." ++
      (if fraction.length < 2 then "0" ++ fraction else fraction)
  | x => x.text

end CodeGraph.Double
