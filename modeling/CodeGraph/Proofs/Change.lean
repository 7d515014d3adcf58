import CodeGraph.Graph.Store

/-!
# Changes

A graph grows out of the empty one by changes. A change that cannot be made leaves the graph as it
was and says why.

Main definitions:

- `Store.apply`, `Store.applyAll`: make one change, or many;
- `Store.Reachable`: the graphs that changes make of the empty one.

Main statement:

- `Reachable.apply`: a change makes a reachable graph of a reachable one.
-/
namespace CodeGraph

/-- A change to a graph. -/
inductive Change where
  | addNode (n : Node)
  | addEdge (e : Edge)
  | removeEdge (e : Edge)
  | removeNode (id : String)
  | clear
  deriving Repr

/-- What comes back from a change. -/
inductive Reply where
  /-- The change was made. -/
  | done
  /-- An edge was not added. -/
  | refused (m : MissingEnd)
  /-- Whether there was what should be removed. -/
  | removed (found : Bool)
  deriving Repr

namespace Store

/-- Make a change. -/
def apply (g : Store) : Change → Store × Reply
  | .addNode n => (g.addNode n, .done)
  | .addEdge e =>
    match g.addEdge e with
    | .ok h => (h, .done)
    | .error m => (g, .refused m)
  | .removeEdge e =>
    match g.removeEdge? e with
    | some h => (h, .removed true)
    | none => (g, .removed false)
  | .removeNode id =>
    match g.removeNode? id with
    | some h => (h, .removed true)
    | none => (g, .removed false)
  | .clear => (.empty, .done)

/-- Make changes one after the other. -/
def applyAll : Store → List Change → Store × List Reply
  | g, [] => (g, [])
  | g, c :: cs =>
    let first := g.apply c
    let rest := applyAll first.1 cs
    (rest.1, first.2 :: rest.2)

/-- Whether changes make a graph of the empty one. -/
def Reachable (g : Store) : Prop := ∃ cs, (empty.applyAll cs).1 = g

theorem applyAll_append (g : Store) (cs ds : List Change) :
    (g.applyAll (cs ++ ds)).1 = ((g.applyAll cs).1.applyAll ds).1 := by
  induction cs generalizing g with
  | nil => rfl
  | cons c cs ih => exact ih _

theorem reachable_empty : empty.Reachable := ⟨[], rfl⟩

theorem Reachable.apply {g : Store} (h : g.Reachable) (c : Change) : (g.apply c).1.Reachable := by
  obtain ⟨cs, rfl⟩ := h
  exact ⟨cs ++ [c], applyAll_append empty cs [c]⟩

end Store

end CodeGraph
