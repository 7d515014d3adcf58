import CodeGraph.Proofs.Components
import CodeGraph.Proofs.ShortestPaths

/-!
# The cycles that are shown

For each component that holds a cycle one cycle is shown, a shortest one through the component's
first member. The search looks only at the members of the component. It misses nothing, because a
walk between two members never leaves the component.

Main definitions:

- `IsShortestCycle`: a list of ids that leads along edges in a circle, with the fewest edges;
- `Store.memberSuccessors`: the edges that the search for a cycle follows.

Main statements:

- `Search.isShortestCycle_of_wayTo`: what a search for its own start finds;
- `Store.Reachable.walk_memberSuccessors`: walks between members stay inside their component;
- `Store.Reachable.representativeCycle_found`: the search for a cycle always finds one;
- `Store.cycles_exact`: which cycles are shown.
-/
namespace CodeGraph

/-- A list of ids leads along edges from one id on and from the last one back to it, with no id
twice, and no closed walk from that id has fewer edges. -/
structure IsShortestCycle (r : String → String → Prop) (u : String) (ring : List String) :
    Prop where
  head : ring.head? = some u
  chain : (ring ++ [u]).IsChain r
  nodup : ring.Nodup
  shortest : ∀ k, 0 < k → Walk r k u u → ring.length ≤ k

/-- A search for its own start finds a shortest cycle, if it finds one as long as the shortest
closed walk. -/
theorem Search.isShortestCycle_of_wayTo {next : String → List String} {maxHops : Option Int}
    {u : String} {size n : Nat} {way : List String}
    (found : wayTo? next maxHops u u size = some way) (length : way.length = n + 1)
    (least : IsLeast {k | Walk (Follows next) (k + 1) u u} n) :
    IsShortestCycle (Follows next) u way := by
  have closed := isPath_of_wayTo found
  have nonempty : way ≠ [] := by
    intro empty
    rw [empty, List.length_nil] at length
    omega
  obtain ⟨w, before, back⟩ := closed.exists_before nonempty
  refine ⟨before.head, closed.chain, ?_, ?_⟩
  · apply before.nodup
    intro k walk
    have le : n ≤ k := least.2 (walk.tail back)
    omega
  · intro k positive walk
    obtain ⟨j, rfl⟩ := Nat.exists_eq_add_one.2 positive
    have le : n ≤ j := least.2 walk
    omega

namespace Store

variable {g : Store} {s : Selection} {c others : List String} {u v first : String} {k : Nat}

/-- The successors of a node among the members of a component. -/
def memberSuccessors (g : Store) (s : Selection) (component : List String) :
    String → List String :=
  g.successors s.edgeTypes (some (component.filter (g.selected s).contains))

theorem representativeCycle_cons (g : Store) (s : Selection) (first : String)
    (others : List String) :
    g.representativeCycle s (first :: others) =
      (Search.wayTo? (g.memberSuccessors s (first :: others)) none first first g.nodeCount).getD
        (first :: others) := rfl

theorem mem_memberSuccessors_iff (hc : c ∈ g.components s) :
    v ∈ g.memberSuccessors s c u ↔ v ∈ g.selectedSuccessors s u ∧ v ∈ c := by
  have selected : v ∈ c → v ∈ g.selected s := mem_selected_of_mem_component hc
  simp only [memberSuccessors, selectedSuccessors, successors, List.mem_filter,
    List.contains_iff_mem]
  tauto

/-- From a member of a component the search follows the edges of the selection that end at
members. -/
theorem Reachable.mem_memberSuccessors_iff_joins (h : g.Reachable) (hc : c ∈ g.components s)
    (hu : u ∈ c) : v ∈ g.memberSuccessors s c u ↔ g.Joins s u v ∧ v ∈ c := by
  rw [mem_memberSuccessors_iff hc,
    h.mem_selectedSuccessors_iff (mem_selected_of_mem_component hc hu)]

/-- A walk between two members of a component stays among the members. -/
theorem Reachable.walk_memberSuccessors (h : g.Reachable) (hc : c ∈ g.components s)
    (walk : Walk (g.Joins s) k u v) (hu : u ∈ c) (hv : v ∈ c) :
    Walk (Follows (g.memberSuccessors s c)) k u v := by
  have both := (areComponents_allComponents g s).mem_iff c (mem_components_iff.1 hc).1
  induction walk with
  | here u => exact .here u
  | @step n u w v edge rest ih =>
    have follows : w ∈ g.selectedSuccessors s u := (h.mem_selectedSuccessors_iff edge.1).2 edge
    have onward : Reaches (g.selectedSuccessors s) w v :=
      (h.reaches_iff edge.2.1).2 (reflTransGen_iff_exists_walk.2 ⟨n, rest⟩)
    have back : Reaches (g.selectedSuccessors s) v u := ((both u hu v).1 hv).2
    have member : w ∈ c := (both u hu w).2 ⟨.single follows, onward.trans back⟩
    exact .step ((mem_memberSuccessors_iff hc).2 ⟨follows, member⟩) (ih member hv)

/-- Some closed walk leads from each member of a component back to it. -/
theorem Reachable.exists_closed_walk (h : g.Reachable) (hc : c ∈ g.components s) (hu : u ∈ c) :
    ∃ k, Walk (g.Joins s) (k + 1) u u := by
  obtain ⟨listed, holds⟩ := mem_components_iff.1 hc
  have cycle : OnCycle (g.selectedSuccessors s) u := (holdsCycle_iff listed hu).1 holds
  rw [h.onCycle_iff (mem_selected_of_mem_component hc hu)] at cycle
  obtain ⟨v, edge, path⟩ := Relation.TransGen.head'_iff.1 cycle
  obtain ⟨k, walk⟩ := reflTransGen_iff_exists_walk.1 path
  exact ⟨k, .step edge walk⟩

/-- A shortest cycle among the members of a component is a shortest one of the selection. -/
theorem Reachable.isShortestCycle_joins (h : g.Reachable) (hc : c ∈ g.components s) (hu : u ∈ c)
    {ring : List String} (found : IsShortestCycle (Follows (g.memberSuccessors s c)) u ring) :
    (∀ v ∈ ring, v ∈ c) ∧ IsShortestCycle (g.Joins s) u ring := by
  obtain ⟨rest, rfl⟩ := List.head?_eq_some_iff.1 found.head
  have later : ∀ v ∈ rest ++ [u], v ∈ c := by
    apply found.chain.cons_induction (· ∈ c) (rest ++ [u])
    · intro a b edge _
      exact ((mem_memberSuccessors_iff hc).1 edge).2
    · exact hu
  have members : ∀ v ∈ u :: (rest ++ [u]), v ∈ c := by
    intro v hv
    rcases List.mem_cons.1 hv with rfl | hv
    · exact hu
    · exact later v hv
  refine ⟨fun v hv => members v (List.mem_append_left [u] hv), found.head, ?_, found.nodup, ?_⟩
  · apply found.chain.imp_of_mem_imp
    intro a b ha _ edge
    exact ((h.mem_memberSuccessors_iff_joins hc (members a ha)).1 edge).1
  · intro k positive walk
    exact found.shortest k positive (h.walk_memberSuccessors hc walk hu hu)

/-- The cycle that is shown for a component was found by the search, and it is a shortest one
through the first member. -/
theorem Reachable.representativeCycle_found (h : g.Reachable)
    (hc : first :: others ∈ g.components s) :
    Search.wayTo? (g.memberSuccessors s (first :: others)) none first first g.nodeCount =
        some (g.representativeCycle s (first :: others)) ∧
      (∀ v ∈ g.representativeCycle s (first :: others), v ∈ first :: others) ∧
      IsShortestCycle (g.Joins s) first (g.representativeCycle s (first :: others)) := by
  obtain ⟨m, indexes⟩ := h.indexes
  have member : first ∈ first :: others := List.mem_cons_self
  have node : first ∈ g.ids := mem_ids_of_mem_selected (mem_selected_of_mem_component hc member)
  have few (n : Nat) :
      (layer (g.memberSuccessors s (first :: others)) first n).seen.length ≤ g.nodeCount :=
    indexes.length_seen_le node (fun _ _ => mem_neighbors_of_mem_successors) n
  rcases Search.wayTo_cases few none first with
    ⟨way, n, found, length, -, least⟩ | ⟨-, none_at_all⟩
  · have shown : g.representativeCycle s (first :: others) = way := by
      rw [representativeCycle_cons, found, Option.getD_some]
    rw [shown]
    refine ⟨found, ?_⟩
    apply h.isShortestCycle_joins hc member
    exact Search.isShortestCycle_of_wayTo found length least
  · obtain ⟨k, walk⟩ := h.exists_closed_walk hc member
    have inside := h.walk_memberSuccessors hc walk member member
    exact absurd inside (none_at_all k (by simp [Search.WithinHops]))

theorem cycles_none_eq (g : Store) (s : Selection) :
    g.cycles none s = (g.components s).map (g.representativeCycle s) := rfl

theorem cycles_some_eq (g : Store) (s : Selection) (k : Int) :
    g.cycles (some k) s = (g.cycles none s).take k.toNat := by
  rw [cycles_none_eq, ← List.map_take]
  rfl

/-- One cycle is shown for each component that holds one, in the order of the components; with a
limit only the first ones are shown, and none for a limit below zero. Each is a shortest cycle
through the first member of its component, and its nodes are members. The search always finds it, so
a component is never shown in place of a cycle. -/
theorem cycles_exact (h : g.Reachable) (s : Selection) :
    (g.cycles none s).length = (g.components s).length ∧
    (∀ k : Int, ((g.cycles (some k) s).length : Int) = min (max k 0) (g.components s).length ∧
      g.cycles (some k) s = (g.cycles none s).take (g.cycles (some k) s).length) ∧
    (∀ (maxCycles : Option Int) (i : Nat) (ring : List String),
      (g.cycles maxCycles s)[i]? = some ring →
        ∃ first others, (g.components s)[i]? = some (first :: others) ∧
          (∀ v ∈ ring, v ∈ first :: others) ∧ IsShortestCycle (g.Joins s) first ring) ∧
    ∀ first others, first :: others ∈ g.components s →
      Search.wayTo? (g.memberSuccessors s (first :: others)) none first first g.nodeCount =
        some (g.representativeCycle s (first :: others)) := by
  refine ⟨?_, ?_, ?_, ?_⟩
  · rw [cycles_none_eq, List.length_map]
  · intro k
    have length : (g.cycles (some k) s).length = min k.toNat (g.components s).length := by
      rw [cycles_some_eq, List.length_take, cycles_none_eq, List.length_map]
    constructor
    · rw [length]
      omega
    · rw [cycles_some_eq, List.length_take, ← List.take_eq_take_min]
  · intro maxCycles i ring shown
    have listed : (g.cycles none s)[i]? = some ring := by
      cases maxCycles with
      | none => exact shown
      | some k =>
        rw [cycles_some_eq, List.getElem?_take] at shown
        split at shown
        · exact shown
        · cases shown
    rw [cycles_none_eq, List.getElem?_map] at listed
    obtain ⟨c, component, rfl⟩ := Option.map_eq_some_iff.1 listed
    have hc := List.mem_of_getElem? component
    have nonempty : c ≠ [] :=
      (areComponents_allComponents g s).ne_nil c (mem_components_iff.1 hc).1
    obtain ⟨first, others, rfl⟩ := List.exists_cons_of_ne_nil nonempty
    exact ⟨first, others, component, (h.representativeCycle_found hc).2⟩
  · intro first others hc
    exact (h.representativeCycle_found hc).1

/-- The chain of calls with a shortcut is one component. The cycle that is shown takes the shortcut,
and none is shown for a limit below zero. -/
theorem cycles_exact_shortcut :
    shortcut.Reachable ∧ shortcut.components .callGraph = [["a", "b", "c"]] ∧
    IsShortestCycle (shortcut.Joins .callGraph) "a" ["a", "c"] ∧
    ((shortcut.cycles (some (-1)) .callGraph).length : Int) = 0 := by
  have reachable : shortcut.Reachable := ⟨_, rfl⟩
  have component : shortcut.components .callGraph = [["a", "b", "c"]] := by decide
  obtain ⟨-, limited, shown, -⟩ := cycles_exact reachable .callGraph
  refine ⟨reachable, component, ?_, ?_⟩
  · obtain ⟨first, others, first_component, -, shortest⟩ := shown none 0 ["a", "c"] (by decide)
    rw [component] at first_component
    obtain ⟨rfl, -⟩ := List.cons.inj (Option.some.inj first_component)
    exact shortest
  · rw [(limited (-1)).1, component]
    decide

end Store

end CodeGraph
