import CodeGraph.Graph.Failure
import CodeGraph.Graph.Selection

/-!
# Calls of a module

The calls that the functions of a module make, inside the module and out of it. The cohesion of a
module is the share of calls that stay inside.
-/
namespace CodeGraph

/-- The calls of one module. -/
structure ModuleCalls where
  id : String
  functionCount : Nat
  internalCalls : Nat
  externalCalls : Nat
  /-- The number of different functions that the outgoing calls reach. -/
  externalDependencies : Nat
  deriving DecidableEq, Repr

namespace ModuleCalls

/-- The share of calls that stay inside the module; zero when there are no calls. -/
def cohesion (m : ModuleCalls) : Double :=
  let total := m.internalCalls + m.externalCalls
  if total = 0 then .zero false else .ofRatio false m.internalCalls total

/-- The calls of a module as a value. -/
def toValue (m : ModuleCalls) : Value :=
  .record [("module", .text m.id), ("function_count", .int m.functionCount),
    ("internal_calls", .int m.internalCalls), ("external_calls", .int m.externalCalls),
    ("external_dependencies", .int m.externalDependencies),
    ("cohesion", .number (.float m.cohesion))]

end ModuleCalls

/-- The calls of the functions that a module defines, each function counted once. -/
def Store.moduleCalls (g : Store) (id : String) : Except Failure ModuleCalls :=
  if g.contains id then
    let functions := (g.functionsOf id).eraseDups
    let calls := functions.flatMap g.callees
    let outside := calls.filter fun callee => !functions.contains callee
    .ok {
      id := id
      functionCount := functions.length
      internalCalls := (calls.filter functions.contains).length
      externalCalls := outside.length
      externalDependencies := outside.eraseDups.length }
  else .error (.nodeNotFound id)

end CodeGraph
