import CodeGraph.Portfolio.Graph
import CodeGraph.Proofs.Components
import CodeGraph.Proofs.DepthSearch
import CodeGraph.Proofs.OrderSearch

/-!
# Three ways to find a cycle

A topological order is missing, a component holds a cycle, or a node has no depth: the three
searches say the same of every graph. For a portfolio this means that no order of upgrades is found
exactly when some dependencies are circular, and exactly when some repository has no depth.

Main statement:

- `Store.cycle_searches_agree`: the three searches find a cycle in the same graphs.
-/
namespace CodeGraph.Store

variable {g : Store} {s : Selection}

theorem topologicalOrder_eq_none_iff_hasCycle {reverse : Bool} :
    g.topologicalOrder s reverse = none ↔ g.hasCycle s = true := by
  rw [topologicalOrder_eq_none_iff, hasCycle_iff]

/-- Some node of a selection is on a cycle exactly when some node reaches one. -/
theorem exists_onCycle_iff :
    (∃ u ∈ g.selected s, OnCycle (g.selectedSuccessors s) u) ↔
      ∃ u ∈ g.selected s, ReachesCycle (g.selectedSuccessors s) u := by
  constructor
  · rintro ⟨u, hu, cycle⟩
    exact ⟨u, hu, u, .refl, cycle⟩
  · rintro ⟨-, -, v, -, cycle⟩
    obtain ⟨_, -, edge⟩ := Relation.TransGen.tail'_iff.1 cycle
    exact ⟨v, mem_selected_of_mem_selectedSuccessors edge, cycle⟩

/-! ## Portfolios -/

/-- Every node goes by its own id, so the repositories are a selection. -/
theorem Reachable.repos_eq (h : g.Reachable) : g.repos = g.selected .repoGraph := by
  obtain ⟨m, indexes⟩ := h.indexes
  have wanted (type : String) : [NodeType.repo].contains type = (type == NodeType.repo) := by
    rw [List.contains_cons, List.contains_nil, Bool.or_false]
  simp only [selected, Selection.repoGraph, scope, wanted]
  rw [indexes.entries_nodes_eq, List.filter_map, List.map_map]
  rfl

theorem upgradeOrder_eq_error_iff :
    g.upgradeOrder = .error .cyclicPortfolio ↔ g.topologicalOrder .repoGraph true = none := by
  rw [upgradeOrder]
  cases g.topologicalOrder .repoGraph true <;> simp

theorem repoCycles_ne_nil_iff : g.repoCycles ≠ [] ↔ g.hasCycle .repoGraph = true := by
  rw [hasCycle_iff_components, repoCycles, cycles]
  simp

/-- A repository has no depth when its dependencies run into a cycle. -/
theorem Reachable.dependencyDepth_eq_error_iff (h : g.Reachable) {repo : String}
    (hr : repo ∈ g.repos) :
    g.dependencyDepth repo = .error (.cyclicDependency repo) ↔
      ReachesCycle (g.selectedSuccessors .repoGraph) repo := by
  rw [h.repos_eq] at hr
  have node : g.contains repo = true := contains_eq_true_iff.2 (mem_ids_of_mem_selected hr)
  have next_eq : g.successors (some EdgeType.dependencyLike) (some g.repos) =
      g.selectedSuccessors .repoGraph := by
    rw [h.repos_eq]
    rfl
  rw [← next_eq, ← h.longestChain_eq_cyclic_iff, dependencyDepth, if_pos node]
  cases g.longestChain repo (some EdgeType.dependencyLike) (some g.repos) <;> simp

/-- The three searches for cycles agree. A selection has no topological order, in either direction,
exactly when one of its components holds a cycle. For a portfolio, there is no order of upgrades
exactly when there are circular dependencies, and exactly when some repository has no depth. -/
theorem cycle_searches_agree (h : g.Reachable) :
    (∀ s reverse, g.topologicalOrder s reverse = none ↔ g.hasCycle s = true) ∧
    (g.upgradeOrder = .error .cyclicPortfolio ↔ g.repoCycles ≠ []) ∧
    (g.repoCycles ≠ [] ↔
      ∃ repo ∈ g.repos, g.dependencyDepth repo = .error (.cyclicDependency repo)) := by
  refine ⟨fun s reverse => topologicalOrder_eq_none_iff_hasCycle, ?_, ?_⟩
  · rw [upgradeOrder_eq_error_iff, topologicalOrder_eq_none_iff_hasCycle, repoCycles_ne_nil_iff]
  · have depths : (∃ repo ∈ g.repos,
        g.dependencyDepth repo = .error (.cyclicDependency repo)) ↔
          ∃ repo ∈ g.selected .repoGraph,
            ReachesCycle (g.selectedSuccessors .repoGraph) repo := by
      rw [← h.repos_eq]
      exact exists_congr fun repo => and_congr_right fun hr => h.dependencyDepth_eq_error_iff hr
    rw [depths, ← exists_onCycle_iff, ← hasCycle_iff, repoCycles_ne_nil_iff]

/-- Two repositories depend on each other, one of them for development, and on a package. -/
def repoPair : Store :=
  (empty.applyAll [.addNode ⟨"app", NodeType.repo, "app", []⟩,
    .addNode ⟨"lib", NodeType.repo, "lib", []⟩,
    .addNode ⟨"json", NodeType.dependency, "json", []⟩,
    .addEdge ⟨"app", "lib", EdgeType.dependsOn, []⟩,
    .addEdge ⟨"lib", "app", EdgeType.devDependsOn, []⟩,
    .addEdge ⟨"lib", "json", EdgeType.dependsOn, []⟩]).1

/-- The two repositories cannot be ordered, and one of them has no depth. -/
theorem cycle_searches_agree_repoPair :
    repoPair.Reachable ∧ repoPair.topologicalOrder .repoGraph = none ∧
    repoPair.upgradeOrder = .error .cyclicPortfolio ∧
    ∃ repo ∈ repoPair.repos, repoPair.dependencyDepth repo = .error (.cyclicDependency repo) := by
  have reachable : repoPair.Reachable := ⟨_, rfl⟩
  have circular : repoPair.repoCycles = [["app", "lib"]] := by decide
  obtain ⟨ordered, upgrade, depth⟩ := cycle_searches_agree reachable
  refine ⟨reachable, (ordered .repoGraph false).2 (by decide), ?_, ?_⟩
  · exact upgrade.2 (by simp [circular])
  · exact depth.1 (by simp [circular])

end CodeGraph.Store
