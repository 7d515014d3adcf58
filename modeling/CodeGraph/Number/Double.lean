/-!
# Double precision numbers

A `Double` is a number of the binary64 format, held as the integers it is made of. A finite one is
`mantissa · 2 ^ shift` units of `2 ^ -1074`, so that all comparisons are comparisons of integers and
no operation rounds except the one that makes a double of a ratio.

A value that is no number equals no other, so it is held with the object that stands for it. The
readers of documents use one object for all such values.

Main statements:

- `roundHalfEven_spec`: a rounded quotient is within half a unit of the quotient;
- `compareInt` orders a double and an integer by their exact values.
-/
namespace CodeGraph

/-- A number of the binary64 format. -/
inductive Double where
  /-- A value that is no number, by the object that stands for it. -/
  | nan (object : Nat := 0)
  /-- An infinity. -/
  | infinite (negative : Bool)
  /-- The number `± mantissa · 2 ^ shift · 2 ^ -1074`. -/
  | finite (negative : Bool) (mantissa shift : Nat)
  deriving DecidableEq, Repr

namespace Double

/-- The exponent of the unit in which finite doubles are counted. -/
def unitExponent : Nat := 1074

/-- The number of units in one. -/
def unitsPerOne : Nat := Nat.pow 2 unitExponent

/-- The largest shift of a finite double. -/
def maxShift : Nat := 2045

/-- The quotient of two numbers, rounded to the nearest integer, a tie to the even one. -/
def roundHalfEven (num den : Nat) : Nat :=
  let q := num / den
  let r := num % den
  if 2 * r < den then q else if den < 2 * r then q + 1 else q + q % 2

/-- A rounded quotient is within half a unit of the quotient. -/
theorem roundHalfEven_spec (num : Nat) {den : Nat} (h : 0 < den) :
    2 * num ≤ 2 * (roundHalfEven num den * den) + den ∧
      2 * (roundHalfEven num den * den) ≤ 2 * num + den := by
  have hq := Nat.div_add_mod num den
  have hr := Nat.mod_lt num h
  rw [Nat.mul_comm] at hq
  have hs : (num / den + 1) * den = num / den * den + den := by
    rw [Nat.add_mul, Nat.one_mul]
  unfold roundHalfEven
  dsimp only
  split
  · omega
  · split
    · omega
    · rcases Nat.mod_two_eq_zero_or_one (num / den) with he | he
      · rw [he, Nat.add_zero]; omega
      · rw [he]; omega

/-- The zero of a sign. -/
def zero (negative : Bool) : Double := .finite negative 0 0

/-- The double nearest to a ratio, a tie to the even mantissa. -/
def ofRatio (negative : Bool) (num den : Nat) : Double :=
  let scaled := num * unitsPerOne
  let bits := (scaled / den).log2
  let shift := if bits < 53 then 0 else bits - 52
  let mantissa := roundHalfEven scaled (den * Nat.pow 2 shift)
  let (mantissa, shift) :=
    if mantissa = Nat.pow 2 53 then (Nat.pow 2 52, shift + 1) else (mantissa, shift)
  if maxShift < shift then .infinite negative else .finite negative mantissa shift

/-- The double nearest to `digits · 10 ^ exponent`. Exponents far outside the format are settled
without the power. -/
def ofDecimal (negative : Bool) (digits : Nat) (exponent : Int) : Double :=
  if digits = 0 then zero negative
  else
    let top := exponent + (Nat.toDigits 10 digits).length
    if 310 < top then .infinite negative
    else if top < -330 then zero negative
    else if 0 ≤ exponent then ofRatio negative (digits * Nat.pow 10 exponent.toNat) 1
    else ofRatio negative digits (Nat.pow 10 (-exponent).toNat)

/-- Whether a double is a zero of either sign. -/
def isZero : Double → Bool
  | .finite _ m _ => m == 0
  | _ => false

/-- A finite double's signed count of units. -/
def units (negative : Bool) (mantissa shift : Nat) : Int :=
  let n : Int := mantissa * Nat.pow 2 shift
  if negative then -n else n

/-- Whether two doubles denote one value. The zeros of both signs do; a value that is no number is
only the same as itself. -/
def sameValue : Double → Double → Bool
  | .nan i, .nan j => i == j
  | .infinite a, .infinite b => a == b
  | .finite a m p, .finite b n q => units a m p == units b n q
  | _, _ => false

theorem sameValue_refl (x : Double) : x.sameValue x = true := by
  cases x <;> simp [sameValue]

example : (nan 0).sameValue (nan 1) = false := rfl

/-- The order of a double and an integer by their exact values; none for a value that is no
number. -/
def compareInt : Double → Int → Option Ordering
  | .nan _, _ => none
  | .infinite negative, _ => some (if negative then .lt else .gt)
  | .finite s m p, n => some (compare (units s m p) (n * unitsPerOne))

/-- Whether a double denotes an integer. -/
def eqInt (x : Double) (n : Int) : Bool := x.compareInt n == some .eq

/-- The greatest integer not above a finite double. -/
def floor? : Double → Option Int
  | .finite s m p => some (Int.fdiv (units s m p) unitsPerOne)
  | _ => none

/-- The least integer not below a finite double. -/
def ceiling? : Double → Option Int
  | .finite s m p => some (-Int.fdiv (-units s m p) unitsPerOne)
  | _ => none

end Double

end CodeGraph
