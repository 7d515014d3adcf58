import CodeGraph.Proofs.SearchLayers

/-!
# Shortest paths are found

A path that no walk is shorter than meets no node twice, as the part between two visits of one node
could be left out. The search for a path finds one of these whenever some walk stays within the
bound, and it can always read its way back.

Main definitions:

- `IsShortestPath`: a list of ids that leads from one id to another with the fewest edges;
- `Store.pathSearch`: where the search for a path between two nodes ends.

Main statements:

- `IsPath.nodup`: no node is met twice on a path that no walk is shorter than;
- `Store.Indexes.shortestPath_cases`: the answer to a question for a path between two nodes;
- `Store.shortestPath_exact`: all answers.
-/
namespace CodeGraph

/-- A list of ids leads along edges from one id to another, with no id twice, and no walk between
the two has fewer edges. -/
structure IsShortestPath (r : String → String → Prop) (u v : String) (path : List String) :
    Prop where
  head : path.head? = some u
  last : path.getLast? = some v
  chain : path.IsChain r
  nodup : path.Nodup
  shortest : IsDistance r u v (path.length - 1)

namespace IsPath

variable {next : String → List String} {u v w : String} {path rest : List String}

/-- A path may be begun at any of its nodes. -/
theorem suffix (before : List String) (h : IsPath next u v (before ++ w :: rest)) :
    IsPath next w v (w :: rest) where
  head := rfl
  last := by
    have last := h.last
    rw [List.getLast?_append_of_ne_nil before (List.cons_ne_nil w rest)] at last
    exact last
  chain := (List.isChain_append.1 h.chain).2.1

/-- Without its last node a path leads to the node before it. -/
theorem exists_before (h : IsPath next u v (path ++ [v])) (nonempty : path ≠ []) :
    ∃ w, IsPath next u w path ∧ v ∈ next w := by
  obtain ⟨before, -, joint⟩ := List.isChain_append.1 h.chain
  have head := h.head
  rw [List.head?_append_of_ne_nil path nonempty] at head
  have last := List.getLast?_eq_some_getLast nonempty
  exact ⟨path.getLast nonempty, ⟨head, last, before⟩, joint _ last v rfl⟩

/-- A path that no walk is shorter than meets no node twice. -/
theorem nodup (h : IsPath next u v path)
    (shortest : ∀ k, Walk (Follows next) k u v → path.length ≤ k + 1) : path.Nodup := by
  induction path generalizing u with
  | nil => exact List.nodup_nil
  | cons x path ih =>
    obtain rfl : x = u := Option.some.inj h.head
    rw [List.nodup_cons]
    constructor
    · -- the part up to a second visit of the first node could be left out
      intro again
      obtain ⟨early, late, split⟩ := List.append_of_mem again
      rw [split] at h shortest
      obtain ⟨n, length, walk⟩ := (IsPath.suffix (x :: early) h).exists_walk
      have least := shortest n walk
      rw [List.length_cons, List.length_append, length] at least
      omega
    · cases path with
      | nil => exact List.nodup_nil
      | cons y path =>
        have edge : y ∈ next x := (List.isChain_cons_cons.1 h.chain).1
        apply ih (IsPath.suffix [x] h)
        intro k walk
        have least := shortest (k + 1) (.step edge walk)
        rw [List.length_cons] at least
        omega

/-- A path that no walk is shorter than is a shortest one. -/
theorem isShortestPath (h : IsPath next u v path)
    (shortest : ∀ k, Walk (Follows next) k u v → path.length ≤ k + 1) :
    IsShortestPath (Follows next) u v path where
  head := h.head
  last := h.last
  chain := h.chain
  nodup := h.nodup shortest
  shortest := by
    obtain ⟨n, length, walk⟩ := h.exists_walk
    rw [length, Nat.add_sub_cancel]
    refine ⟨walk, ?_⟩
    intro k other
    have least := shortest k other
    omega

end IsPath

namespace Store

variable {g : Store} {m : Multigraph} {u v : String}

/-- Where the search for a path between two nodes ends. -/
def pathSearch (g : Store) (u v : String) (maxHops : Option Int) (types : Option (List String)) :
    Search :=
  .run (fun id => g.neighbors id types) maxHops u v (g.nodeCount + 1) (.begin u)

/-- A search along edges meets no more than all nodes. -/
theorem Indexes.length_seen_le (h : g.Indexes m) (hu : u ∈ g.ids) {next : String → List String}
    {types : Option (List String)} (along : ∀ a, ∀ b ∈ next a, b ∈ g.neighbors a types) (n : Nat) :
    (layer next u n).seen.length ≤ g.nodeCount := by
  rw [← length_ids]
  apply CodeGraph.length_seen_le hu
  intro a _ b edge
  have adjacent : b ∈ g.adjacent types .outgoing a := along a b edge
  exact h.mem_ids_of_mem_adjacent adjacent

theorem shortestPath_eq_of_not_mem_source (hu : u ∉ g.ids) (v : String) (maxHops : Option Int)
    (types : Option (List String)) :
    g.shortestPath u v maxHops types = .error (.nodeNotFound u) := by
  have absent : g.contains u = false := eq_false_of_ne_true (mt contains_eq_true_iff.1 hu)
  simp [shortestPath, absent]

theorem shortestPath_eq_of_not_mem_target (hu : u ∈ g.ids) (hv : v ∉ g.ids) (maxHops : Option Int)
    (types : Option (List String)) :
    g.shortestPath u v maxHops types = .error (.nodeNotFound v) := by
  have present : g.contains u = true := contains_eq_true_iff.2 hu
  have absent : g.contains v = false := eq_false_of_ne_true (mt contains_eq_true_iff.1 hv)
  simp [shortestPath, present, absent]

theorem shortestPath_self (hu : u ∈ g.ids) (maxHops : Option Int) (types : Option (List String)) :
    g.shortestPath u u maxHops types = .ok [u] := by
  have present : g.contains u = true := contains_eq_true_iff.2 hu
  simp [shortestPath, present]

/-- Between two different nodes the answer is the way that the search finds. -/
theorem shortestPath_of_wayTo (hu : u ∈ g.ids) (hv : v ∈ g.ids) (other : u ≠ v)
    {maxHops : Option Int} {types : Option (List String)} {way : List String}
    (found : Search.wayTo? (fun id => g.neighbors id types) maxHops u v g.nodeCount = some way) :
    g.shortestPath u v maxHops types = .ok (way ++ [v]) := by
  have source : g.contains u = true := contains_eq_true_iff.2 hu
  have target : g.contains v = true := contains_eq_true_iff.2 hv
  simp [shortestPath, source, target, other, found]

theorem shortestPath_of_no_way (hu : u ∈ g.ids) (hv : v ∈ g.ids) (other : u ≠ v)
    {maxHops : Option Int} {types : Option (List String)}
    (missing : Search.wayTo? (fun id => g.neighbors id types) maxHops u v g.nodeCount = none) :
    g.shortestPath u v maxHops types = .error (.noPath u v maxHops) := by
  have source : g.contains u = true := contains_eq_true_iff.2 hu
  have target : g.contains v = true := contains_eq_true_iff.2 hv
  simp [shortestPath, source, target, other, missing]

/-- Between two different nodes a shortest path is found, or no walk stays within the bound. -/
theorem Indexes.shortestPath_cases (h : g.Indexes m) (hu : u ∈ g.ids) (hv : v ∈ g.ids)
    (other : u ≠ v) (maxHops : Option Int) (types : Option (List String)) :
    (∃ path, g.shortestPath u v maxHops types = .ok path ∧
        IsShortestPath (g.HasEdge types) u v path ∧ Search.WithinHops maxHops (path.length - 1)) ∨
      (g.shortestPath u v maxHops types = .error (.noPath u v maxHops) ∧
        ∀ k, Search.WithinHops maxHops k → ¬ Walk (g.HasEdge types) k u v) := by
  have few (n : Nat) : (layer (fun id => g.neighbors id types) u n).seen.length ≤ g.nodeCount :=
    h.length_seen_le hu (fun _ _ edge => edge) n
  rw [← h.follows_neighbors types]
  rcases Search.wayTo_cases few maxHops v with
    ⟨way, n, found, length, within, least⟩ | ⟨missing, none_within⟩
  · left
    have nodes : (way ++ [v]).length = n + 1 + 1 := by
      rw [List.length_append, length, List.length_singleton]
    refine ⟨way ++ [v], shortestPath_of_wayTo hu hv other found, ?_, ?_⟩
    · apply (Search.isPath_of_wayTo found).isShortestPath
      intro k walk
      -- as the nodes are different, every walk between them has an edge
      obtain ⟨j, rfl⟩ := Nat.exists_eq_add_one.2 (walk.pos other)
      have le : n ≤ j := least.2 walk
      omega
    · rw [nodes, Nat.add_sub_cancel]
      exact within
  · right
    refine ⟨shortestPath_of_no_way hu hv other missing, ?_⟩
    intro k within walk
    obtain ⟨j, rfl⟩ := Nat.exists_eq_add_one.2 (walk.pos other)
    exact none_within j within walk

/-- A question for a path fails for the first of the two ids that is no node. The path from a node
to itself has no edge. Between two different nodes a shortest path is found if a walk stays within
the bound, and otherwise the answer is that there is none. When the search stops at a node, the way
back from there is always found. -/
theorem shortestPath_exact (h : g.Reachable) (u v : String) (maxHops : Option Int)
    (types : Option (List String)) :
    (u ∉ g.ids → g.shortestPath u v maxHops types = .error (.nodeNotFound u)) ∧
    (u ∈ g.ids → v ∉ g.ids → g.shortestPath u v maxHops types = .error (.nodeNotFound v)) ∧
    (u ∈ g.ids → u = v → g.shortestPath u v maxHops types = .ok [u]) ∧
    (u ∈ g.ids → v ∈ g.ids → u ≠ v →
      ((∃ k, Walk (g.HasEdge types) k u v ∧ Search.WithinHops maxHops k) →
        ∃ path, g.shortestPath u v maxHops types = .ok path ∧
          IsShortestPath (g.HasEdge types) u v path) ∧
      ((¬ ∃ k, Walk (g.HasEdge types) k u v ∧ Search.WithinHops maxHops k) →
        g.shortestPath u v maxHops types = .error (.noPath u v maxHops))) ∧
    (u ∈ g.ids → ∀ id, (g.pathSearch u v maxHops types).last = some id →
      ∃ way, Search.wayBack? (g.pathSearch u v maxHops types).origins u (g.nodeCount + 1) id [] =
        some way) := by
  obtain ⟨m, indexes⟩ := h.indexes
  refine ⟨?_, ?_, ?_, ?_, ?_⟩
  · intro hu
    exact shortestPath_eq_of_not_mem_source hu v maxHops types
  · intro hu hv
    exact shortestPath_eq_of_not_mem_target hu hv maxHops types
  · rintro hu rfl
    exact shortestPath_self hu maxHops types
  · intro hu hv other
    rcases indexes.shortestPath_cases hu hv other maxHops types with
      ⟨path, found, shortest, within⟩ | ⟨failed, none_within⟩
    · refine ⟨fun _ => ⟨path, found, shortest⟩, ?_⟩
      intro none_within
      exact absurd ⟨_, shortest.shortest.1, within⟩ none_within
    · refine ⟨?_, fun _ => failed⟩
      rintro ⟨k, walk, within⟩
      exact absurd walk (none_within k within)
  · intro hu id stopped
    exact Search.exists_wayBack_of_stopped (indexes.length_seen_le hu fun _ _ edge => edge) stopped

/-- A chain of calls with a shortcut, and a call back to its start. -/
def shortcut : Store :=
  (empty.applyAll [.addNode ⟨"a", NodeType.function, "a", []⟩,
    .addNode ⟨"b", NodeType.function, "b", []⟩, .addNode ⟨"c", NodeType.function, "c", []⟩,
    .addNode ⟨"d", NodeType.function, "d", []⟩,
    .addEdge ⟨"a", "b", EdgeType.calls, []⟩, .addEdge ⟨"b", "c", EdgeType.calls, []⟩,
    .addEdge ⟨"c", "a", EdgeType.calls, []⟩, .addEdge ⟨"a", "c", EdgeType.calls, []⟩,
    .addEdge ⟨"c", "d", EdgeType.calls, []⟩]).1

/-- The shortest path takes the shortcut, so one call is not enough; and no path is asked for from
a function that is not there. -/
theorem shortestPath_exact_shortcut :
    shortcut.Reachable ∧ "a" ∈ shortcut.ids ∧ "d" ∈ shortcut.ids ∧ "a" ≠ "d" ∧
    IsShortestPath (shortcut.HasEdge (some [EdgeType.calls])) "a" "d" ["a", "c", "d"] ∧
    shortcut.shortestPath "a" "d" (some 1) (some [EdgeType.calls]) =
      .error (.noPath "a" "d" (some 1)) ∧
    shortcut.shortestPath "e" "f" = .error (.nodeNotFound "e") := by
  have reachable : shortcut.Reachable := ⟨_, rfl⟩
  have start : "a" ∈ shortcut.ids := by decide
  have goal : "d" ∈ shortcut.ids := by decide
  have other : "a" ≠ "d" := by decide
  have asked (bound : Int) := (shortestPath_exact reachable "a" "d" (some bound)
    (some [EdgeType.calls])).2.2.2.1 start goal other
  have far : IsShortestPath (shortcut.HasEdge (some [EdgeType.calls])) "a" "d" ["a", "c", "d"] := by
    have walk : Walk (shortcut.HasEdge (some [EdgeType.calls])) 2 "a" "d" :=
      .step (w := "c") (by decide) (.step (w := "d") (by decide) (.here "d"))
    obtain ⟨path, found, shortest⟩ := (asked 2).1 ⟨2, walk, by simp [Search.WithinHops]⟩
    have listed : shortcut.shortestPath "a" "d" (some 2) (some [EdgeType.calls]) =
        .ok ["a", "c", "d"] := rfl
    obtain rfl := Except.ok.inj (listed.symm.trans found)
    exact shortest
  refine ⟨reachable, start, goal, other, far, (asked 1).2 ?_, ?_⟩
  · rintro ⟨k, walk, within⟩
    have two_calls : 2 ≤ k := far.shortest.2 walk
    have one_call := within 1 rfl
    omega
  · exact (shortestPath_exact reachable "e" "f" (some defaultMaxHops) none).1 (by decide)

end Store

end CodeGraph
