import CodeGraph.Graph.Ranking
import CodeGraph.Proofs.Components
import CodeGraph.Proofs.DepthSearch

/-!
# Call depths of many nodes

All call depths are found over one memory, which the search from each node hands on to the next. The
memory only ever holds right depths, so every node gets the depth that a search of its own finds.

The nodes of some types may call nodes of other types. Their depths count such calls, and a search
for cycles does not. So a node can have no depth although the selected nodes have no cycle.

Main definition:

- `Selection.calls`: the calls between the nodes of some types.

Main statements:

- `Reachable.allCallDepths_eq`: one memory for all searches, or a new one for each;
- `allCallDepths_exact`: the depths against `callDepth`, and the nodes that call nothing;
- `cyclic_depths_agree_iff`: when the depths and the search for cycles agree.
-/
namespace CodeGraph

/-- The calls between the nodes of some types. -/
def Selection.calls (nodeTypes : Option (List String)) : Selection :=
  ⟨nodeTypes, some [EdgeType.calls]⟩

/-- Nothing follows an id of depth zero. -/
theorem Depth.isOf_finite_zero_iff {next : String → List String} {u : String} :
    (Depth.finite 0).IsOf next u ↔ next u = [] := by
  have none_follows : ¬ HasChain next 1 u ↔ next u = [] := by
    simp [HasChain, List.eq_nil_iff_forall_not_mem]
  rw [← none_follows]
  exact ⟨fun depth => depth.2, fun none => ⟨trivial, none⟩⟩

namespace Store

variable {g : Store}

/-! ## One memory for all searches -/

/-- Over a memory of right depths a search finds what it finds over an empty one. -/
theorem Reachable.explore_get? (h : g.Reachable) {types members : Option (List String)}
    {memo : Table String Depth} (settled : Settled (g.successors types members) memo)
    (id : String) :
    let next := g.successors types members
    (DepthSearch.explore next (g.depthSteps next) memo id).get? id =
      some (g.longestChain id types members) := by
  obtain ⟨right, known⟩ := h.explore_sound settled id
  obtain ⟨d, found⟩ := Option.ne_none_iff_exists'.1 fun new => Table.get?_eq_none_iff.1 new known
  have same : d = g.longestChain id types members :=
    (right id d found).unique (h.longestChain_isOf id types members)
  rw [← same]
  exact found

/-- The memory stays right from search to search, so each node gets a depth of its own. -/
theorem Reachable.foldl_explore (h : g.Reachable) (ids : List String) {memo : Table String Depth}
    (settled : Settled (g.successors (some [EdgeType.calls]) none) memo)
    (found : List (String × Depth)) :
    let next := g.successors (some [EdgeType.calls]) none
    (ids.foldl (fun found id =>
      let memo := DepthSearch.explore next (g.depthSteps next) found.1 id
      (memo, found.2 ++ [(id, (memo.get? id).getD .cyclic)])) (memo, found)).2 =
      found ++ ids.map fun id => (id, g.longestChain id) := by
  induction ids generalizing memo found with
  | nil => simp
  | cons id ids ih =>
    have right := (h.explore_sound settled id).1
    have depth := h.explore_get? settled id
    have rest := ih right (found ++ [(id, g.longestChain id)])
    simp only [List.foldl_cons, depth, Option.getD_some, List.map_cons]
    rw [rest, List.append_assoc, List.singleton_append]

theorem Reachable.allCallDepths_eq (h : g.Reachable) (types : Option (List String)) :
    g.allCallDepths types = (g.scope types).map fun id => (id, g.longestChain id) := by
  have none_settled : Settled (g.successors (some [EdgeType.calls]) none) .empty := by
    intro v d found
    cases found
  simpa [allCallDepths] using h.foldl_explore (g.scope types) none_settled []

theorem Reachable.mem_allCallDepths_iff (h : g.Reachable) {types : Option (List String)}
    {id : String} {d : Depth} :
    (id, d) ∈ g.allCallDepths types ↔ id ∈ g.scope types ∧ g.longestChain id = d := by
  rw [h.allCallDepths_eq, List.mem_map]
  constructor
  · rintro ⟨v, hv, same⟩
    obtain ⟨rfl, rfl⟩ := Prod.mk.inj same
    exact ⟨hv, rfl⟩
  · rintro ⟨hid, rfl⟩
    exact ⟨id, hid, rfl⟩

theorem callDepth_of_mem_ids {id : String} (hid : id ∈ g.ids) :
    g.callDepth id = match g.longestChain id with
      | .finite n => .ok n
      | .cyclic => .error (.cycleDetected id) :=
  if_pos (contains_eq_true_iff.2 hid)

theorem callDepth_eq_ok_iff {id : String} (hid : id ∈ g.ids) {n : Nat} :
    g.callDepth id = .ok n ↔ g.longestChain id = .finite n := by
  rw [callDepth_of_mem_ids hid]
  cases g.longestChain id <;> simp

theorem callDepth_eq_error_iff {id : String} (hid : id ∈ g.ids) :
    g.callDepth id = .error (.cycleDetected id) ↔ g.longestChain id = .cyclic := by
  rw [callDepth_of_mem_ids hid]
  cases g.longestChain id <;> simp

/-- A node has depth zero when it calls nothing. -/
theorem Reachable.longestChain_eq_zero_iff (h : g.Reachable) {id : String} :
    g.longestChain id = .finite 0 ↔ g.outDegree id (some [EdgeType.calls]) = 0 := by
  have depth := h.longestChain_isOf id (some [EdgeType.calls]) none
  have no_calls : g.successors (some [EdgeType.calls]) none id = [] ↔
      g.outDegree id (some [EdgeType.calls]) = 0 := by
    simp [successors, neighbors, outDegree]
  rw [← no_calls, ← Depth.isOf_finite_zero_iff]
  exact ⟨fun zero => zero ▸ depth, fun zero => depth.unique zero⟩

/-- The call depths of the nodes of some types are listed once for each node. They are the depths
that searches with an empty memory find, and fail where those fail. The nodes of depth zero are
those that call nothing. -/
theorem allCallDepths_exact (h : g.Reachable) (types : Option (List String)) :
    (g.allCallDepths types).map Prod.fst = g.scope types ∧ (g.scope types).Nodup ∧
    (∀ id ∈ g.scope types, ∀ n,
      (id, .finite n) ∈ g.allCallDepths types ↔ g.callDepth id = .ok n) ∧
    (∀ id ∈ g.scope types,
      (id, .cyclic) ∈ g.allCallDepths types ↔ g.callDepth id = .error (.cycleDetected id)) ∧
    ((g.allCallDepths types).filter fun found => found.2 = .finite 0).map Prod.fst =
      g.leafFunctions types := by
  have node {id : String} (hid : id ∈ g.scope types) : id ∈ g.ids :=
    mem_ids_of_mem_selected (s := .calls types) hid
  refine ⟨?_, g.nodup_selected (.calls types), fun id hid n => ?_, fun id hid => ?_, ?_⟩
  · rw [h.allCallDepths_eq, List.map_map]
    exact List.map_id _
  · rw [h.mem_allCallDepths_iff, callDepth_eq_ok_iff (node hid)]
    exact and_iff_right hid
  · rw [h.mem_allCallDepths_iff, callDepth_eq_error_iff (node hid)]
    exact and_iff_right hid
  · rw [h.allCallDepths_eq, List.filter_map, List.map_map, leafFunctions]
    have same : ∀ id ∈ g.scope types, decide (g.longestChain id = .finite 0) =
        (g.outDegree id (some [EdgeType.calls]) == 0) := fun id _ => by
      rw [Bool.eq_iff_iff, decide_eq_true_eq, beq_iff_eq, h.longestChain_eq_zero_iff]
    exact (List.map_id _).trans (List.filter_congr same)

/-- Two functions and a module. The first function calls the module, which calls itself; the second
function calls nothing. -/
def strayCall : Store :=
  (empty.applyAll [.addNode ⟨"f", NodeType.function, "f", []⟩,
    .addNode ⟨"m", "module", "m", []⟩, .addNode ⟨"g", NodeType.function, "g", []⟩,
    .addEdge ⟨"f", "m", EdgeType.calls, []⟩, .addEdge ⟨"m", "m", EdgeType.calls, []⟩]).1

/-- The first function has no depth, and the second has depth zero. -/
theorem allCallDepths_exact_strayCall :
    strayCall.Reachable ∧ "f" ∈ strayCall.scope (some [NodeType.function]) ∧
    strayCall.callDepth "f" = .error (.cycleDetected "f") ∧ strayCall.callDepth "g" = .ok 0 ∧
    strayCall.leafFunctions = ["g"] := by
  have reachable : strayCall.Reachable := ⟨_, rfl⟩
  have depths : strayCall.allCallDepths = [("f", .cyclic), ("g", .finite 0)] := by decide
  obtain ⟨-, -, finite, cyclic, leaves⟩ :=
    allCallDepths_exact reachable (some [NodeType.function])
  refine ⟨reachable, by decide, (cyclic "f" (by decide)).1 ?_, (finite "g" (by decide) 0).1 ?_, ?_⟩
  · simp [depths]
  · simp [depths]
  · rw [← leaves, depths]
    decide

/-! ## Depths and cycles -/

/-- All calls together are a selection of their own. -/
theorem Reachable.successors_calls_eq (h : g.Reachable) :
    g.successors (some [EdgeType.calls]) none = g.selectedSuccessors (.calls none) := by
  funext u
  have inside : ∀ v ∈ g.neighbors u (some [EdgeType.calls]),
      (g.selected (.calls none)).contains v = true := fun v hv =>
    List.contains_iff_mem.2 (h.ends_of_mem_neighbors hv).2
  exact (List.filter_eq_self.2 inside).symm

/-- The calls between some nodes are calls. -/
theorem Joins.calls_none {types : Option (List String)} {u v : String}
    (edge : g.Joins (.calls types) u v) : g.Joins (.calls none) u v := by
  obtain ⟨hu, hv, e, he, hs, ht, admitted⟩ := edge
  exact ⟨mem_ids_of_mem_selected hu, mem_ids_of_mem_selected hv, e, he, hs, ht, admitted⟩

/-- A call from one of some nodes to another one is a call between these nodes. -/
theorem Joins.calls_of_mem {types : Option (List String)} {u v : String}
    (edge : g.Joins (.calls none) u v) (hu : u ∈ g.scope types) (hv : v ∈ g.scope types) :
    g.Joins (.calls types) u v := by
  obtain ⟨-, -, rest⟩ := edge
  exact ⟨hu, hv, rest⟩

/-- Some node of a list has no depth when calls lead from it to a cycle, through whatever nodes. -/
theorem Reachable.exists_cyclic_depth_iff (h : g.Reachable) {types : Option (List String)} :
    (∃ id, (id, .cyclic) ∈ g.allCallDepths types) ↔
      ∃ u ∈ g.scope types, ∃ v, Relation.ReflTransGen (g.Joins (.calls none)) u v ∧
        Relation.TransGen (g.Joins (.calls none)) v v := by
  refine exists_congr fun u => ?_
  rw [h.mem_allCallDepths_iff, h.longestChain_eq_cyclic_iff, h.successors_calls_eq]
  refine and_congr_right fun hu => exists_congr fun v => ?_
  have node : u ∈ g.selected (.calls none) := mem_ids_of_mem_selected (s := .calls types) hu
  rw [h.reaches_iff node]
  refine and_congr_right fun path => ?_
  have reached : v ∈ g.selected (.calls none) := by
    rcases Relation.ReflTransGen.cases_tail path with same | ⟨w, -, edge⟩
    · rwa [same]
    · exact edge.2.1
  rw [h.onCycle_iff reached]

/-- The search for cycles finds one when calls between the nodes of a list make one. -/
theorem Reachable.hasCycle_calls_iff (h : g.Reachable) {types : Option (List String)} :
    g.hasCycle (.calls types) = true ↔ ∃ u, Relation.TransGen (g.Joins (.calls types)) u u := by
  rw [hasCycle_iff]
  constructor
  · rintro ⟨u, hu, cycle⟩
    exact ⟨u, (h.onCycle_iff hu).1 cycle⟩
  · rintro ⟨u, cycle⟩
    obtain ⟨v, edge, -⟩ := Relation.TransGen.head'_iff.1 cycle
    exact ⟨u, edge.1, (h.onCycle_iff edge.1).2 cycle⟩

/-- Calls that lead from one of some nodes to others of them only stay among these nodes. -/
theorem transGen_calls_of_closed {types : Option (List String)}
    (closed : ∀ u v, g.Joins (.calls none) u v → u ∈ g.scope types → v ∈ g.scope types)
    {u v : String} (hu : u ∈ g.scope types)
    (path : Relation.TransGen (g.Joins (.calls none)) u v) :
    v ∈ g.scope types ∧ Relation.TransGen (g.Joins (.calls types)) u v := by
  induction path with
  | single edge =>
    have hv := closed _ _ edge hu
    exact ⟨hv, .single (edge.calls_of_mem hu hv)⟩
  | tail _ edge ih =>
    have hv := closed _ _ edge ih.1
    exact ⟨hv, ih.2.tail (edge.calls_of_mem ih.1 hv)⟩

/-- Some nodes have no depth and the search for cycles among them finds one, or neither: this holds
exactly when calls lead from these nodes to no cycle, or there is one among them. A cycle among them
always leaves nodes without depth. The two agree where calls do not leave the nodes, so they agree
on all nodes together. -/
theorem cyclic_depths_agree_iff (h : g.Reachable) (types : Option (List String)) :
    (((∃ id, (id, .cyclic) ∈ g.allCallDepths types) ↔ g.hasCycle (.calls types) = true) ↔
      ((∃ u ∈ g.scope types, ∃ v, Relation.ReflTransGen (g.Joins (.calls none)) u v ∧
          Relation.TransGen (g.Joins (.calls none)) v v) →
        ∃ u, Relation.TransGen (g.Joins (.calls types)) u u)) ∧
    (g.hasCycle (.calls types) = true ↔ g.cycles none (.calls types) ≠ []) ∧
    (g.hasCycle (.calls types) = true → ∃ id, (id, .cyclic) ∈ g.allCallDepths types) ∧
    ((∀ u v, g.Joins (.calls none) u v → u ∈ g.scope types → v ∈ g.scope types) →
      ((∃ id, (id, .cyclic) ∈ g.allCallDepths types) ↔ g.hasCycle (.calls types) = true)) := by
  rw [h.exists_cyclic_depth_iff, h.hasCycle_calls_iff]
  have leaves_no_depth : (∃ u, Relation.TransGen (g.Joins (.calls types)) u u) →
      ∃ u ∈ g.scope types, ∃ v, Relation.ReflTransGen (g.Joins (.calls none)) u v ∧
        Relation.TransGen (g.Joins (.calls none)) v v := by
    rintro ⟨u, cycle⟩
    obtain ⟨v, edge, -⟩ := Relation.TransGen.head'_iff.1 cycle
    exact ⟨u, edge.1, u, .refl,
      Relation.TransGen.mono (fun _ _ => Joins.calls_none) _ _ cycle⟩
  refine ⟨⟨fun agree => agree.1, fun found => ⟨found, leaves_no_depth⟩⟩, ?_, leaves_no_depth,
    fun closed => ⟨?_, leaves_no_depth⟩⟩
  · rw [← h.hasCycle_calls_iff, hasCycle_iff_components, cycles]
    simp
  · rintro ⟨u, hu, v, path, cycle⟩
    have hv : v ∈ g.scope types := by
      rcases Relation.reflTransGen_iff_eq_or_transGen.1 path with same | path
      · rwa [same]
      · exact (transGen_calls_of_closed closed hu path).1
    exact ⟨v, (transGen_calls_of_closed closed hv cycle).2⟩

/-- Two functions that call each other have no depth, and are on a cycle. -/
theorem cyclic_depths_agree_iff_callPair :
    callPair.Reachable ∧ callPair.hasCycle (.calls (some [NodeType.function])) = true ∧
    ∃ id, (id, .cyclic) ∈ callPair.allCallDepths (some [NodeType.function]) := by
  have reachable : callPair.Reachable := ⟨_, rfl⟩
  have circular : callPair.hasCycle (.calls (some [NodeType.function])) = true := by decide
  obtain ⟨-, -, no_depth, -⟩ := cyclic_depths_agree_iff reachable (some [NodeType.function])
  exact ⟨reachable, circular, no_depth circular⟩

/-- A function can have no depth although no functions are on a cycle: it calls a module that calls
itself. -/
theorem strayCall_cyclic_without_cycle :
    strayCall.Reachable ∧
    ¬ ((∃ id, (id, .cyclic) ∈ strayCall.allCallDepths (some [NodeType.function])) ↔
      strayCall.hasCycle (.calls (some [NodeType.function])) = true) := by
  have depth : ("f", .cyclic) ∈ strayCall.allCallDepths (some [NodeType.function]) := by decide
  have no_cycle : strayCall.hasCycle (.calls (some [NodeType.function])) = false := by decide
  refine ⟨⟨_, rfl⟩, fun agree => ?_⟩
  rw [agree.1 ⟨"f", depth⟩] at no_cycle
  cases no_cycle

end Store

end CodeGraph
