import CodeGraph.Number.Shortest

/-!
# Numbers

A number of a document is a whole number of any size or a double. Numbers are compared by their
exact values, whatever form they have.
-/
namespace CodeGraph

/-- A number of a document. -/
inductive Number where
  | int (n : Int)
  | float (x : Double)
  deriving DecidableEq, Repr

namespace Number

instance : OfNat Number n := ⟨.int n⟩

/-- Whether a number is zero. -/
def isZero : Number → Bool
  | .int n => n == 0
  | .float x => x.isZero

/-- Whether two numbers have one value. -/
def same : Number → Number → Bool
  | .int m, .int n => m == n
  | .int m, .float y => y.eqInt m
  | .float x, .int n => x.eqInt n
  | .float x, .float y => x.sameValue y

theorem same_refl (n : Number) : n.same n = true := by
  cases n with
  | int n => simp [same]
  | float x => exact x.sameValue_refl

/-- The order of a number and an integer; none for a value that is no number. -/
def compareInt : Number → Int → Option Ordering
  | .int m, n => some (compare m n)
  | .float x, n => x.compareInt n

/-- Whether a number is at most an integer. -/
def leInt (x : Number) (n : Int) : Bool :=
  match x.compareInt n with
  | some .lt => true
  | some .eq => true
  | _ => false

/-- The text of a number. -/
def text : Number → String
  | .int n => toString n
  | .float x => x.text

end Number

end CodeGraph
