import CodeGraph.Graph.ModuleCalls
import CodeGraph.Proofs.Classes
import CodeGraph.Proofs.Ranking
import CodeGraph.Proofs.Results

/-!
# Calls of modules among all calls

What is reported on the calls of a module can be told from all calls of the graph and the set of
functions that the module defines. A function that is defined several times is one function, and so
is one that is called from several places, while several calls of one function by another are
counted one by one. Modules without a common function share no calls, so their numbers add up.

Main definitions:

- `Store.definedFunctions`: the functions that a module defines;
- `Store.countedCalls`: the calls of a module, counted among all calls.

Main statements:

- `Store.Indexes.flatMap_callees_perm`: the callees of some functions, as the ends of calls;
- `Store.Indexes.moduleCalls_eq`: the report on a module;
- `Store.moduleCalls_exact`: the report, a repeated definition, and several modules together.
-/
namespace CodeGraph.Store

variable {g : Store} {m : Multigraph} {id f : String} {e : Edge}

/-- The functions that a module defines. -/
def definedFunctions (g : Store) (id : String) : Finset String :=
  let defined := g.edges.filter fun e => e.source = id ∧ e.type = EdgeType.defines
  (defined.map Edge.target).toFinset.filter fun f => g.isOfType NodeType.function f

/-- The calls of a module: those between its functions, those that lead out of it, and what the
latter lead to. -/
def countedCalls (g : Store) (id : String) : ModuleCalls :=
  let functions := g.definedFunctions id
  { id := id
    functionCount := functions.card
    internalCalls := g.calls.countP fun e => e.source ∈ functions ∧ e.target ∈ functions
    externalCalls := g.calls.countP fun e => e.source ∈ functions ∧ e.target ∉ functions
    externalDependencies := ((g.calls.filter fun e =>
      e.source ∈ functions ∧ e.target ∉ functions).map Edge.target).toFinset.card }

/-! ## Functions of a module -/

theorem mem_definedFunctions_iff :
    f ∈ g.definedFunctions id ↔
      (∃ e ∈ g.edges, e.source = id ∧ e.target = f ∧ e.type = EdgeType.defines) ∧
        g.isOfType NodeType.function f = true := by
  unfold definedFunctions
  simp only [Finset.mem_filter, List.mem_toFinset, List.mem_map, List.mem_filter,
    decide_eq_true_eq]
  constructor
  · rintro ⟨⟨e, ⟨he, source, type⟩, rfl⟩, function⟩
    exact ⟨⟨e, he, source, rfl, type⟩, function⟩
  · rintro ⟨⟨e, he, source, rfl, type⟩, function⟩
    exact ⟨⟨e, ⟨he, source, type⟩, rfl⟩, function⟩

theorem Indexes.mem_functionsOf_iff (h : g.Indexes m) :
    f ∈ g.functionsOf id ↔ f ∈ g.definedFunctions id := by
  rw [functionsOf, List.mem_filter, mem_definedFunctions_iff]
  refine and_congr_left fun _ => ?_
  have all {e : Edge} : e ∈ g.edges ↔ e ∈ m.edges := h.leaving.allEdges_perm.mem_iff
  simp only [neighbors, List.mem_map, h.mem_outgoing, all, List.mem_singleton]
  constructor
  · rintro ⟨e, ⟨he, source, type⟩, rfl⟩
    exact ⟨e, he, source, rfl, type⟩
  · rintro ⟨e, he, source, rfl, type⟩
    exact ⟨e, ⟨he, source, type⟩, rfl⟩

/-- As many members are left without repetitions as there are different ones. -/
theorem length_eraseDups (ids : List String) : ids.eraseDups.length = ids.toFinset.card := by
  rw [← List.toFinset_card_of_nodup (nodup_eraseDups ids)]
  congr 1
  ext id
  simp

theorem Indexes.toFinset_functionsOf (h : g.Indexes m) (id : String) :
    (g.functionsOf id).toFinset = g.definedFunctions id := by
  ext f
  rw [List.mem_toFinset, h.mem_functionsOf_iff]

/-! ## Calls of a module -/

/-- What some functions call, one entry for each call, are the ends of the calls that leave them. -/
theorem Indexes.flatMap_callees_perm (h : g.Indexes m) {functions : List String}
    (distinct : functions.Nodup) :
    (functions.flatMap g.callees).Perm
      ((g.calls.filter fun e => e.source ∈ functions).map Edge.target) := by
  have single : [EdgeType.calls].eraseDups = [EdgeType.calls] := rfl
  let made := (m.edges.filter fun e => e.type = EdgeType.calls).filter
    fun e => e.source ∈ functions
  have each : ∀ f ∈ functions,
      g.callees f = (made.filter fun e => e.source = f).map Edge.target := by
    intro f hf
    unfold callees neighbors outgoing
    rw [h.leaving.edgesAt_some, single, List.flatMap_singleton, List.filter_filter,
      List.filter_filter]
    congr 2
    funext e
    by_cases here : e.source = f
    · simp [here, hf]
    · simp [here]
  have known : ∀ e ∈ made, e.source ∈ functions := by
    intro e he
    exact of_decide_eq_true (List.mem_filter.1 he).2
  rw [List.flatMap_congr each, ← List.map_flatMap]
  refine ((flatMap_filter_perm Edge.source distinct known).trans ?_).map Edge.target
  exact (h.calls_perm.filter _).symm

/-- What the functions of a module call and a test accepts, one entry for each call. -/
theorem Indexes.filter_callees_perm (h : g.Indexes m) (id : String) {p : String → Bool}
    {q : String → Prop} [DecidablePred q] (same : ∀ f, p f = true ↔ q f) :
    (((g.functionsOf id).eraseDups.flatMap g.callees).filter p).Perm
      ((g.calls.filter fun e => e.source ∈ g.definedFunctions id ∧ q e.target).map
        Edge.target) := by
  refine ((h.flatMap_callees_perm (nodup_eraseDups _)).filter p).trans (.of_eq ?_)
  rw [List.filter_map, List.filter_filter]
  congr 2
  funext e
  rw [Bool.eq_iff_iff]
  simp [same, h.mem_functionsOf_iff, and_comm]

/-- The report on a module counts its calls among all calls. -/
theorem Indexes.moduleCalls_eq (h : g.Indexes m) (hid : id ∈ g.ids) :
    g.moduleCalls id = .ok (g.countedCalls id) := by
  have own (f : String) : (g.functionsOf id).eraseDups.contains f = true ↔
      f ∈ g.definedFunctions id := by
    rw [List.contains_iff_mem, List.mem_eraseDups, h.mem_functionsOf_iff]
  have other (f : String) : (!(g.functionsOf id).eraseDups.contains f) = true ↔
      f ∉ g.definedFunctions id := by
    rw [← own, Bool.not_eq_true', Bool.not_eq_true]
  have inside := h.filter_callees_perm id own
  have outside := h.filter_callees_perm id other
  unfold moduleCalls countedCalls
  rw [if_pos (contains_eq_true_iff.2 hid)]
  simp only [inside.length_eq, outside.length_eq, List.length_map, List.countP_eq_length_filter,
    length_eraseDups, List.toFinset_eq_of_perm _ _ outside, h.toFinset_functionsOf]

/-- All calls of a module are those that leave its functions. -/
theorem internalCalls_add_externalCalls (g : Store) (id : String) :
    (g.countedCalls id).internalCalls + (g.countedCalls id).externalCalls =
      g.calls.countP fun e => e.source ∈ g.definedFunctions id := by
  unfold countedCalls
  have apart : ∀ e : Edge,
      decide (e.source ∈ g.definedFunctions id ∧ e.target ∈ g.definedFunctions id) = true →
      decide (e.source ∈ g.definedFunctions id ∧ e.target ∉ g.definedFunctions id) = false := by
    intro e inside
    exact decide_eq_false fun outside => outside.2 (of_decide_eq_true inside).2
  rw [← countP_or_of_disjoint apart]
  congr 1
  funext e
  by_cases source : e.source ∈ g.definedFunctions id <;>
    by_cases target : e.target ∈ g.definedFunctions id <;> simp [source, target]

/-! ## A repeated definition -/

section Repeated

variable (defines : e.type = EdgeType.defines) (known : e.target ∈ g.definedFunctions e.source)

include defines known

/-- A further edge to a function that the module defines already can be added, and neither changes
what is defined nor adds a call. -/
theorem Indexes.addEdge_defines (h : g.Indexes m) :
    g.addEdge e = .ok (g.attach e) ∧ (g.attach e).calls.Perm g.calls ∧
      (g.attach e).definedFunctions = g.definedFunctions := by
  obtain ⟨⟨first, hfirst, source, target, type⟩, function⟩ := mem_definedFunctions_iff.1 known
  have ends := h.ends first (h.leaving.allEdges_perm.mem_iff.1 hfirst)
  rw [source, target] at ends
  have edges : (g.attach e).edges.Perm (g.edges ++ [e]) :=
    (h.attach ends.1 ends.2).leaving.allEdges_perm.trans
      (h.leaving.allEdges_perm.symm.append_right [e])
  refine ⟨addEdge_eq_ok_iff.2 ⟨ends, rfl⟩, ?_, ?_⟩
  · have no_call : e.type ≠ EdgeType.calls := by
      rw [defines]
      decide
    refine (edges.filter _).trans (.of_eq ?_)
    rw [List.filter_append]
    simp [calls, no_call]
  · funext id
    ext f
    rw [mem_definedFunctions_iff, mem_definedFunctions_iff]
    simp only [edges.mem_iff, List.mem_append, List.mem_singleton, or_and_right, exists_or,
      exists_eq_left]
    have typed : (g.attach e).isOfType NodeType.function f = g.isOfType NodeType.function f := rfl
    rw [typed]
    constructor
    · rintro (old | ⟨⟨rfl, rfl, -⟩, -⟩)
      · exact old
      · exact ⟨⟨first, hfirst, source, target, type⟩, function⟩
    · exact .inl

/-- A repeated definition changes no report. -/
theorem Indexes.moduleCalls_attach (h : g.Indexes m) (id : String) :
    (g.attach e).moduleCalls id = g.moduleCalls id := by
  obtain ⟨added, calls, functions⟩ := h.addEdge_defines defines known
  obtain ⟨⟨source, target⟩, -⟩ := addEdge_eq_ok_iff.1 added
  by_cases hid : id ∈ g.ids
  · have counted : (g.attach e).countedCalls id = g.countedCalls id := by
      unfold countedCalls
      rw [functions]
      simp only [calls.countP_eq,
        List.toFinset_eq_of_perm _ _ ((calls.filter _).map Edge.target)]
    rw [(h.attach source target).moduleCalls_eq hid, h.moduleCalls_eq hid, counted]
  · have absent : g.contains id = false := Table.contains_eq_false_iff.2 hid
    have absent' : (g.attach e).contains id = false := absent
    unfold moduleCalls
    rw [absent, absent']
    rfl

end Repeated

/-! ## Several modules -/

/-- Modules without a common function share no calls. -/
theorem sum_countedCalls {modules : List String}
    (apart : modules.Pairwise fun a b =>
      Disjoint (g.definedFunctions a) (g.definedFunctions b)) :
    (modules.map fun id =>
      (g.countedCalls id).internalCalls + (g.countedCalls id).externalCalls).sum =
      g.calls.countP fun e => ∃ id ∈ modules, e.source ∈ g.definedFunctions id := by
  have exclude : modules.Pairwise fun a b => ∀ e : Edge,
      decide (e.source ∈ g.definedFunctions a) = true →
      decide (e.source ∈ g.definedFunctions b) = false := by
    apply apart.imp
    intro a b disjoint e here
    exact decide_eq_false fun there =>
      Finset.disjoint_left.1 disjoint (of_decide_eq_true here) there
  simp only [internalCalls_add_externalCalls]
  rw [sum_map_countP exclude]
  congr 1
  funext e
  rw [Bool.eq_iff_iff]
  simp

/-- The reports on modules. The functions of a module, the calls between them, those that lead out,
and what these lead to are counted as told by all calls of the graph. A further definition of a
function that the module defines changes no report. Together, modules without a common function make
the calls that leave one of their functions. -/
theorem moduleCalls_exact (h : g.Reachable) :
    (∀ id ∈ g.ids, g.moduleCalls id = .ok (g.countedCalls id) ∧
      ∀ e : Edge, e.source = id → e.type = EdgeType.defines →
        e.target ∈ g.definedFunctions id →
          ∃ k, g.addEdge e = .ok k ∧ ∀ other, k.moduleCalls other = g.moduleCalls other) ∧
    ∀ modules : List String, (∀ id ∈ modules, id ∈ g.ids) →
      (modules.Pairwise fun a b => Disjoint (g.definedFunctions a) (g.definedFunctions b)) →
        ∃ reports, modules.mapM g.moduleCalls = .ok reports ∧
          (reports.map fun r => r.internalCalls + r.externalCalls).sum =
            g.calls.countP fun e => ∃ id ∈ modules, e.source ∈ g.definedFunctions id := by
  obtain ⟨m, indexes⟩ := h.indexes
  refine ⟨fun id hid => ⟨indexes.moduleCalls_eq hid, ?_⟩, ?_⟩
  · rintro e rfl defines known
    exact ⟨g.attach e, (indexes.addEdge_defines defines known).1,
      indexes.moduleCalls_attach defines known⟩
  · intro modules nodes apart
    refine ⟨modules.map g.countedCalls, mapM_eq_ok fun id hid => ?_, ?_⟩
    · exact indexes.moduleCalls_eq (nodes id hid)
    · rw [List.map_map]
      exact sum_countedCalls apart

/-- Two modules. The first one defines a function twice, and besides another function something that
is none. Its functions call themselves, each other, the function of the second module twice, and
what is no function. -/
def twoModules : Store :=
  (empty.applyAll [.addNode ⟨"web", "module", "web", []⟩, .addNode ⟨"core", "module", "core", []⟩,
    .addNode ⟨"page", NodeType.function, "page", []⟩,
    .addNode ⟨"link", NodeType.function, "link", []⟩,
    .addNode ⟨"load", NodeType.function, "load", []⟩, .addNode ⟨"log", "external", "log", []⟩,
    .addEdge ⟨"web", "page", EdgeType.defines, []⟩, .addEdge ⟨"web", "link", EdgeType.defines, []⟩,
    .addEdge ⟨"web", "page", EdgeType.defines, []⟩, .addEdge ⟨"web", "log", EdgeType.defines, []⟩,
    .addEdge ⟨"core", "load", EdgeType.defines, []⟩,
    .addEdge ⟨"page", "page", EdgeType.calls, []⟩, .addEdge ⟨"page", "link", EdgeType.calls, []⟩,
    .addEdge ⟨"page", "link", EdgeType.calls, []⟩, .addEdge ⟨"page", "load", EdgeType.calls, []⟩,
    .addEdge ⟨"page", "load", EdgeType.calls, []⟩, .addEdge ⟨"link", "log", EdgeType.calls, []⟩,
    .addEdge ⟨"load", "page", EdgeType.calls, []⟩]).1

/-- The first module has two functions, which make three calls of each other and three to two other
nodes. A third definition of one of them changes nothing. Together, the modules make all calls. -/
theorem moduleCalls_exact_twoModules :
    twoModules.Reachable ∧ "web" ∈ twoModules.ids ∧
    twoModules.moduleCalls "web" = .ok ⟨"web", 2, 3, 3, 2⟩ ∧
    "page" ∈ twoModules.definedFunctions "web" ∧
    (∃ k, twoModules.addEdge ⟨"web", "page", EdgeType.defines, []⟩ = .ok k ∧
      k.moduleCalls "web" = .ok ⟨"web", 2, 3, 3, 2⟩) ∧
    Disjoint (twoModules.definedFunctions "web") (twoModules.definedFunctions "core") ∧
    ∃ reports, ["web", "core"].mapM twoModules.moduleCalls = .ok reports ∧
      (reports.map fun r => r.internalCalls + r.externalCalls).sum = 7 := by
  have reachable : twoModules.Reachable := ⟨_, rfl⟩
  have known : "page" ∈ twoModules.definedFunctions "web" := by decide
  have apart : Disjoint (twoModules.definedFunctions "web")
      (twoModules.definedFunctions "core") := by decide
  have counted : twoModules.countedCalls "web" = ⟨"web", 2, 3, 3, 2⟩ := by decide
  obtain ⟨each, together⟩ := moduleCalls_exact reachable
  obtain ⟨reported, repeated⟩ := each "web" (by decide)
  rw [counted] at reported
  obtain ⟨k, added, unchanged⟩ :=
    repeated ⟨"web", "page", EdgeType.defines, []⟩ rfl rfl known
  obtain ⟨reports, run, total⟩ := together ["web", "core"] (by decide) (by simpa using apart)
  exact ⟨reachable, by decide, reported, known, ⟨k, added, (unchanged "web").trans reported⟩, apart,
    reports, run, total⟩

end CodeGraph.Store
