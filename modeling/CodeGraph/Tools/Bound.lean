import CodeGraph.Document.Access

/-!
# Bounds

A client may give any value as the bound of a query. A number bounds by its exact value, so one with
a fraction acts as the whole number next to it; truth values count as one and zero. A value that has
no order with numbers is a fault, but only where the bound is looked at.

Main definitions:

- `Bound.greatest`: the greatest count that a bound allows, for bounds that may be reached;
- `Bound.least`: the least count that a bound excludes, for bounds that may not.
-/
namespace CodeGraph.Bound

/-- A count that every count exceeds. -/
def belowAll : Int := -1

/-- The greatest whole number that does not exceed a number. None means that all counts are
allowed. -/
def floor : Number → Option Int
  | .int n => some n
  | .float (.infinite true) => some belowAll
  | .float x => x.floor?

/-- The least whole number that is not below a number. None means that no count reaches it. -/
def ceiling : Number → Option Int
  | .int n => some n
  | .float (.infinite true) => some belowAll
  | .float x => x.ceiling?

/-- The greatest count that a bound allows; null allows all. -/
def greatest : Value → Except Fault (Option Int)
  | .null => .ok none
  | v =>
    match v.number? with
    | some n => .ok (floor n)
    | none => .error (.noOrder ">" .int v.kind)

/-- The least count that a bound excludes. -/
def least (v : Value) : Except Fault (Option Int) :=
  match v.number? with
  | some n => .ok (ceiling n)
  | none => .error (.noOrder ">=" .int v.kind)

/-- The least count that a bound excludes; null excludes none. -/
def leastOrNone : Value → Except Fault (Option Int)
  | .null => .ok none
  | v => least v

/-- The end of a slice, which must be a whole number or a truth value. -/
def sliceEnd (v : Value) : Except Fault Int :=
  match v.number? with
  | some (.int n) => .ok n
  | _ => .error .sliceEnd

end CodeGraph.Bound
