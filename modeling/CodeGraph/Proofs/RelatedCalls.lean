import CodeGraph.Proofs.Building
import CodeGraph.Proofs.Classes
import CodeGraph.Proofs.Loading
import CodeGraph.Proofs.Walks
import CodeGraph.Tools.Call

/-!
# Callers and callees

The functions on the other side of a call can be asked for with a command and with a tool of the
server. Both load the graph of one file and look the function up first. For direct calls they list
the other ends of its edges, each once; for indirect calls they traverse the graph. A traversal
never lists its start, while a function that calls itself is its own caller and callee. So a
traversal with the bound zero finds the direct callers or callees other than the function itself.

Main definitions:

- `Value.ListsIds`: an answer lists nodes with some ids;
- `Tool.Asks`: what the arguments of a tool ask for;
- `ListedByBoth`: the command and the tool list the same ids.

Main statements:

- `Tool.related_of_mem`, `Tool.related_of_not_mem`: what the tool answers, told by what the command
  lists;
- `GraphQuery.relatedIds_direct`, `Store.Indexes.relatedIds_zero`: direct calls, and a traversal
  with the bound zero;
- `related_answers_agree`: the command and the tool answer alike.
-/
namespace CodeGraph

/-! ## Loaded graphs -/

section Loaded

variable {files : Files} {env : Environment} {p : Path} {skip : Bool} {built : Built}

/-- What can be loaded stands in a file. -/
theorem Files.exists?_of_loadGraph (load : files.loadGraph p skip = .ok built) :
    files.exists? p = true := by
  cases place : files.locate p with
  | ok tree =>
    cases tree with
    | file content => simp [exists?, isFile, place]
    | directory entries => simp [exists?, isDirectory, place]
  | error f =>
    -- a path that leads nowhere cannot be read
    have unread : files.readText p = .error (.unreadable f) := by
      rw [readText, readBytes, place]
    have refused : ∃ e, files.loadFacts p = .error e := by
      rw [loadFacts, readFactsValue_eq, readJson, unread]
      by_cases null : p.hasNull = true
      · rw [if_pos null]
        exact ⟨_, rfl⟩
      · rw [if_neg null]
        exact ⟨_, rfl⟩
    obtain ⟨e, refused⟩ := refused
    rw [loadGraph, refused] at load
    cases load

/-- A graph that is loaded was built, so its indexes agree. -/
theorem Files.indexes_of_loadGraph (load : files.loadGraph p skip = .ok built) :
    ∃ m, built.graph.Indexes m := by
  rw [loadGraph] at load
  cases facts : files.loadFacts p with
  | error e =>
    rw [facts] at load
    cases load
  | ok f =>
    rw [facts] at load
    dsimp only at load
    cases build : f.build skip with
    | error e =>
      rw [build] at load
      cases load
    | ok b =>
      rw [build] at load
      obtain rfl : b = built := Except.ok.inj load
      obtain ⟨m, indexes, -⟩ := (Facts.holds_of_build build).1.indexes
      exact ⟨m, indexes⟩

/-- A command asks its query of the graph that it loads. -/
theorem Command.run_of_loadGraph {facts : Option Path}
    (load : files.loadGraph (facts.getD files.directory.defaultFacts) = .ok built)
    (query : GraphQuery) (json : Bool) :
    run files ⟨.ofFacts facts query, json⟩ = .ofAnswer json (query.answer built.graph) := by
  rw [run]
  simp only [load]

/-- The tool for the callers, or for the callees. -/
def Tool.ofDirection : Direction → Tool
  | .incoming => callers
  | .outgoing => callees

/-- The tool answers from the graph that it loads. -/
theorem Tool.answer_of_loadGraph
    (load : files.loadGraph ((env.path? factsVariable).getD files.directory.defaultFacts) =
      .ok built) (direction : Direction) (arguments : Value) :
    (ofDirection direction).answer env files arguments =
      (related direction built.graph arguments).mapError fun f => .error (.fault f) := by
  have loaded : callGraph env files = .ok built.graph := by
    rw [callGraph]
    simp only [Files.exists?_of_loadGraph load, load, if_true]
  cases direction with
  | incoming =>
    rw [ofDirection, answer]
    simp only [loaded]
    rfl
  | outgoing =>
    rw [ofDirection, answer]
    simp only [loaded]
    rfl

/-- What the tool answers is printed over indented lines. -/
theorem Tool.callTool_of_loadGraph
    (load : files.loadGraph ((env.path? factsVariable).getD files.directory.defaultFacts) =
      .ok built) {direction : Direction} {arguments value : Value}
    (answered : related direction built.graph arguments = .ok value) :
    callTool env files (ofDirection direction).name arguments = Json.indented value := by
  rw [callTool, ofName?_name]
  simp only [answer_of_loadGraph load, answered]
  rfl

end Loaded

/-! ## Lists of nodes in answers -/

/-- Under a name, an answer lists nodes with some ids, in their order. -/
def Value.ListsIds (name : String) (v : Value) (ids : List String) : Prop :=
  ∃ nodes, v.item name = .ok (.list nodes) ∧
    nodes.map (Value.item "id") = ids.map fun id => .ok (.text id)

/-- An answer with a node and a list of nodes, where every node shows its id. -/
theorem Value.listsIds_record {name : String} (other : name ≠ "node") (node : Value)
    {nodeValue : String → Value} (own : ∀ id, (nodeValue id).item "id" = .ok (.text id))
    (ids : List String) :
    ListsIds name (.record [("node", node), (name, .list (ids.map nodeValue))]) ids := by
  refine ⟨ids.map nodeValue, ?_, ?_⟩
  · rw [item_record]
    simp [other]
  · rw [List.map_map]
    exact List.map_congr_left fun id _ => own id

theorem GraphQuery.relatedName_ne_node (direction : Direction) :
    (relatedName direction).1 ≠ "node" := by
  cases direction <;> decide

variable {g : Store} {m : Multigraph}

theorem GraphQuery.item_id_nodeValue (h : g.Indexes m) (id : String) :
    (nodeValue g id).item "id" = .ok (.text id) := by
  rw [nodeValue]
  cases found : g.node? id with
  | none => rfl
  | some n => rw [← h.own_id id n found]; rfl

theorem Tool.item_id_nodeValue (h : g.Indexes m) (id : String) :
    (nodeValue g id).item "id" = .ok (.text id) := by
  rw [nodeValue]
  cases found : g.node? id with
  | none => rfl
  | some n => rw [← h.own_id id n found]; rfl

/-! ## What is listed -/

/-- The arguments of a tool ask for the functions around a function: only for the direct ones, or
for those within a bound. -/
structure Tool.Asks (arguments : Value) (id : String) (indirect : Bool) (maxDepth : Option Int) :
    Prop where
  id_eq : arguments.item "id" = .ok (.text id)
  indirect_eq : ∃ v, arguments.getD "transitive" (.bool false) = .ok v ∧ v.isEmptyLike = !indirect
  maxDepth_eq : ∃ v, arguments.get "max_depth" = .ok v ∧ Bound.greatest v = .ok maxDepth

/-- Arguments that ask for the functions around a function. A bound that is not given is left
out. -/
def Tool.relatedRequest (id : String) (indirect : Bool) (maxDepth : Option Int) : Value :=
  .record ([("id", .text id), ("transitive", .bool indirect)] ++
    (maxDepth.map fun k => ("max_depth", .int k)).toList)

theorem Tool.asks_relatedRequest (id : String) (indirect : Bool) (maxDepth : Option Int) :
    Asks (relatedRequest id indirect maxDepth) id indirect maxDepth where
  id_eq := Value.item_record ..
  indirect_eq := ⟨_, Value.getD_record .., rfl⟩
  maxDepth_eq := by
    refine ⟨_, Value.get_record .., ?_⟩
    cases maxDepth <;> rfl

variable {direction : Direction} {id : String} {indirect : Bool} {maxDepth : Option Int}
  {arguments : Value}

/-- The tool looks the edges of direct calls up by itself, and lists what the command lists. -/
theorem Tool.relatedIds_eq (g : Store) (direction : Direction) (id : String) (indirect : Bool)
    (maxDepth : Option Int) : relatedIds g direction id indirect maxDepth =
      GraphQuery.relatedIds g direction id indirect maxDepth := by
  unfold relatedIds GraphQuery.relatedIds
  cases indirect with
  | true => rfl
  | false =>
    cases g.contains id with
    | false => rfl
    | true => cases direction <;> rfl

theorem GraphQuery.exists_relatedIds (hid : id ∈ g.ids) :
    ∃ ids, relatedIds g direction id indirect maxDepth = .ok ids := by
  have known := Store.contains_eq_true_iff.2 hid
  rw [relatedIds, Store.transitive]
  cases indirect with
  | true => exact ⟨_, if_pos known⟩
  | false => exact ⟨_, if_pos known⟩

theorem GraphQuery.relatedIds_of_not_mem (hid : id ∉ g.ids) :
    relatedIds g direction id indirect maxDepth = .error (.nodeNotFound id) := by
  have unknown := mt Store.contains_eq_true_iff.1 hid
  rw [relatedIds, Store.transitive]
  cases indirect with
  | true => exact if_neg unknown
  | false => exact if_neg unknown

/-- A function that is a node is answered with what the command lists for it. -/
theorem Tool.related_of_mem (asks : Asks arguments id indirect maxDepth) (hid : id ∈ g.ids)
    {ids : List String}
    (listed : GraphQuery.relatedIds g direction id indirect maxDepth = .ok ids) :
    related direction g arguments =
      .ok (.record [("node", nodeValue g id),
        ((GraphQuery.relatedName direction).1, nodesValue g ids)]) := by
  obtain ⟨flag, given, kind⟩ := asks.indirect_eq
  obtain ⟨bound, bounded, greatest⟩ := asks.maxDepth_eq
  have found : node? g (.text id) = .ok (some id) := by
    rw [node?, if_pos (Store.contains_eq_true_iff.2 hid)]
  rw [related, asks.id_eq, given, bounded]
  simp only [bind, Except.bind, found, kind, Bool.not_not]
  cases indirect with
  | false =>
    have direct := (relatedIds_eq g direction id false none).trans listed
    simp [direct, pure, Except.pure]
  | true =>
    have traversed := (relatedIds_eq g direction id true maxDepth).trans listed
    simp [greatest, traversed, pure, Except.pure]

/-- A function that is no node is not found. -/
theorem Tool.related_of_not_mem (asks : Asks arguments id indirect maxDepth) (hid : id ∉ g.ids) :
    related direction g arguments = .ok (Failure.nodeNotFound id).toValue := by
  obtain ⟨flag, given, -⟩ := asks.indirect_eq
  obtain ⟨bound, bounded, -⟩ := asks.maxDepth_eq
  have missing : node? g (.text id) = .ok none := by
    rw [node?, if_neg (mt Store.contains_eq_true_iff.1 hid)]
  rw [related, asks.id_eq, given, bounded]
  simp only [bind, Except.bind, missing]
  rfl

theorem GraphQuery.answer_related_eq_error_iff :
    (related direction id indirect maxDepth).answer g = .error (.nodeNotFound id) ↔
      id ∉ g.ids := by
  constructor
  · intro failed hid
    obtain ⟨ids, listed⟩ : ∃ ids, relatedIds g direction id indirect maxDepth = .ok ids :=
      exists_relatedIds hid
    rw [answer, listed] at failed
    cases failed
  · intro hid
    rw [answer, relatedIds_of_not_mem hid]
    rfl

theorem Tool.related_eq_nodeNotFound_iff (asks : Asks arguments id indirect maxDepth) :
    related direction g arguments = .ok (Failure.nodeNotFound id).toValue ↔ id ∉ g.ids := by
  constructor
  · intro failed hid
    obtain ⟨ids, listed⟩ := GraphQuery.exists_relatedIds hid
    rw [related_of_mem asks hid listed] at failed
    simp [Failure.toValue, Value.record] at failed
  · exact related_of_not_mem asks

/-! ## Direct and indirect calls -/

/-- A node is next to itself when an edge leads from it to itself, whatever the direction. -/
theorem Store.Indexes.self_mem_adjacent_iff (h : g.Indexes m) {types : List String} :
    id ∈ g.adjacent (some types) direction id ↔
      ∃ e ∈ g.edges, e.source = id ∧ e.target = id ∧ e.type ∈ types := by
  have ahead : id ∈ g.adjacent (some types) .outgoing id ↔
      ∃ e ∈ g.edges, e.source = id ∧ e.target = id ∧ e.type ∈ types := by
    have all {e : Edge} : e ∈ g.edges ↔ e ∈ m.edges := h.leaving.allEdges_perm.mem_iff
    simp only [all, adjacent, neighbors, outgoing, List.mem_map, h.leaving.mem_edgesAt]
    constructor
    · rintro ⟨e, ⟨he, source, admitted⟩, target⟩
      exact ⟨e, he, source, target, admitted types rfl⟩
    · rintro ⟨e, he, source, target, admitted⟩
      exact ⟨e, ⟨he, source, fun selected same => Option.some.inj same ▸ admitted⟩, target⟩
  cases direction with
  | outgoing => exact ahead
  | incoming =>
    have back : id ∈ g.adjacent (some types) .incoming id ↔
        id ∈ g.adjacent (some types) .outgoing id :=
      iff_of_eq (congrFun₂ (h.follows_incoming (some types)) id id)
    exact back.trans ahead

theorem GraphQuery.relatedIds_direct (hid : id ∈ g.ids) :
    relatedIds g direction id false maxDepth =
      .ok (g.adjacent (some [EdgeType.calls]) direction id).eraseDups := by
  rw [relatedIds, if_neg Bool.false_ne_true, if_pos (Store.contains_eq_true_iff.2 hid)]

/-- A traversal with the bound zero goes one layer far, and does not come back to its start. -/
theorem Store.Indexes.relatedIds_zero (h : g.Indexes m) (hid : id ∈ g.ids) :
    GraphQuery.relatedIds g direction id true (some 0) =
      .ok ((g.adjacent (some [EdgeType.calls]) direction id).eraseDups.filter (· ≠ id)) := by
  have others : ∀ v, decide (v ∉ [id]) = decide (v ≠ id) := fun v => by
    simp only [List.mem_singleton]
  have one : ((0 : Int) + 1).toNat = 1 := rfl
  rw [GraphQuery.relatedIds, if_pos rfl, h.transitive_bounded_eq hid, one, tail_seen_one, unseen_eq,
    filter_eraseDups]
  simp only [others]

/-- Asked for the functions around a function, the command and the tool list the same ones. -/
structure ListedByBoth (g : Store) (direction : Direction) (id : String) (indirect : Bool)
    (maxDepth : Option Int) (ids : List String) : Prop where
  computed : GraphQuery.relatedIds g direction id indirect maxDepth = .ok ids
  reported : (GraphQuery.related direction id indirect maxDepth).answer g =
    .ok (GraphQuery.relatedReport g direction id ids)
  shown : (GraphQuery.relatedReport g direction id ids).value.ListsIds
    (GraphQuery.relatedName direction).1 ids
  answered : ∀ arguments, Tool.Asks arguments id indirect maxDepth →
    ∃ value, Tool.related direction g arguments = .ok value ∧
      value.ListsIds (GraphQuery.relatedName direction).1 ids

theorem Store.Indexes.listedByBoth (h : g.Indexes m) (hid : id ∈ g.ids) {ids : List String}
    (listed : GraphQuery.relatedIds g direction id indirect maxDepth = .ok ids) :
    ListedByBoth g direction id indirect maxDepth ids where
  computed := listed
  reported := by
    rw [GraphQuery.answer, listed]
    rfl
  shown := Value.listsIds_record (GraphQuery.relatedName_ne_node direction) _
    (GraphQuery.item_id_nodeValue h) ids
  answered := by
    intro arguments asks
    refine ⟨_, Tool.related_of_mem asks hid listed, ?_⟩
    exact Value.listsIds_record (GraphQuery.relatedName_ne_node direction) _
      (Tool.item_id_nodeValue h) ids

/-- What a command and a tool answer when they are asked for the functions around an id, of any
graph that is loaded. They list the same ids when the id is a node, and otherwise say that it is
not found. The direct functions are listed once each, the function itself among them when it calls
itself; without it they are what a traversal with the bound zero finds. A command and a tool that
load the graph answer from it. -/
theorem related_answers_agree {files : Files} {p : Path} {skip : Bool} {built : Built}
    (load : files.loadGraph p skip = .ok built) (direction : Direction) (id : String) :
    (∀ indirect maxDepth,
      (id ∈ built.graph.ids → ∃ ids, ListedByBoth built.graph direction id indirect maxDepth ids) ∧
      ((GraphQuery.related direction id indirect maxDepth).answer built.graph =
        .error (.nodeNotFound id) ↔ id ∉ built.graph.ids) ∧
      ∀ arguments, Tool.Asks arguments id indirect maxDepth →
        (Tool.related direction built.graph arguments = .ok (Failure.nodeNotFound id).toValue ↔
          id ∉ built.graph.ids)) ∧
    (id ∈ built.graph.ids → ∃ direct,
      (∀ maxDepth, ListedByBoth built.graph direction id false maxDepth direct) ∧
      direct.Nodup ∧
      (id ∈ direct ↔ ∃ e ∈ built.graph.edges,
        e.source = id ∧ e.target = id ∧ e.type = EdgeType.calls) ∧
      ListedByBoth built.graph direction id true (some 0) (direct.filter (· ≠ id))) ∧
    (skip = false → ∀ env : Environment,
      (env.path? factsVariable).getD files.directory.defaultFacts = p →
      (∀ (query : GraphQuery) (json : Bool),
        Command.run files ⟨.ofFacts (env.path? factsVariable) query, json⟩ =
          .ofAnswer json (query.answer built.graph)) ∧
      ∀ arguments value, Tool.related direction built.graph arguments = .ok value →
        callTool env files (Tool.ofDirection direction).name arguments = Json.indented value) := by
  obtain ⟨m, indexes⟩ := Files.indexes_of_loadGraph load
  refine ⟨fun indirect maxDepth => ⟨fun hid => ?_, GraphQuery.answer_related_eq_error_iff,
    fun arguments asks => Tool.related_eq_nodeNotFound_iff asks⟩, fun hid => ?_, ?_⟩
  · obtain ⟨ids, listed⟩ := GraphQuery.exists_relatedIds hid
    exact ⟨ids, indexes.listedByBoth hid listed⟩
  · refine ⟨_, fun maxDepth => indexes.listedByBoth hid (GraphQuery.relatedIds_direct hid),
      nodup_eraseDups _, ?_, indexes.listedByBoth hid (indexes.relatedIds_zero hid)⟩
    rw [List.mem_eraseDups, indexes.self_mem_adjacent_iff]
    simp only [List.mem_singleton]
  · rintro rfl env rfl
    refine ⟨Command.run_of_loadGraph load, fun arguments value answered => ?_⟩
    exact Tool.callTool_of_loadGraph load answered

/-- A function that calls itself once and another function twice, in the file of a project. -/
def selfCall : Files where
  directory := ⟨"/", []⟩
  children := [(".repograph", .directory [("graph.json", .file
    ("\x7b\"nodes\": [\x7b\"id\": \"f\", \"type\": \"function\"\x7d, " ++
      "\x7b\"id\": \"g\", \"type\": \"function\"\x7d], " ++
      "\"edges\": [\x7b\"source\": \"f\", \"target\": \"f\", \"type\": \"calls\"\x7d, " ++
      "\x7b\"source\": \"f\", \"target\": \"g\", \"type\": \"calls\"\x7d, " ++
      "\x7b\"source\": \"f\", \"target\": \"g\", \"type\": \"calls\"\x7d]\x7d"
      ).toUTF8.toList)])]

theorem related_answers_agree_selfCall : ∃ built,
    selfCall.loadGraph selfCall.directory.defaultFacts = .ok built ∧
    (∀ maxDepth, ListedByBoth built.graph .outgoing "f" false maxDepth ["f", "g"]) ∧
    ListedByBoth built.graph .outgoing "f" true (some 0) ["g"] ∧
    (∃ value, Tool.related .outgoing built.graph (Tool.relatedRequest "f" true (some 0)) =
      .ok value ∧ value.ListsIds "callees" ["g"]) ∧
    Command.run selfCall ⟨.ofFacts none (.related .outgoing "h" false none), true⟩ =
      .ofAnswer true (.error (.nodeNotFound "h")) := by
  have content : ((selfCall.loadGraph selfCall.directory.defaultFacts).toOption.map fun built =>
      (built.graph.ids, (built.graph.callees "f").eraseDups)) = some (["f", "g"], ["f", "g"]) := by
    decide +kernel
  cases load : selfCall.loadGraph selfCall.directory.defaultFacts with
  | error e =>
    rw [load] at content
    cases content
  | ok built =>
    rw [load] at content
    obtain ⟨ids, calls⟩ := Prod.mk.inj (Option.some.inj content)
    have hid : "f" ∈ built.graph.ids := ids ▸ List.mem_cons_self
    have absent : "h" ∉ built.graph.ids := by
      rw [ids]
      decide
    obtain ⟨direct, both, -, -, zero⟩ := (related_answers_agree load .outgoing "f").2.1 hid
    have listed : direct = ["f", "g"] := by
      have known : GraphQuery.relatedIds built.graph .outgoing "f" false none = .ok _ :=
        GraphQuery.relatedIds_direct hid
      exact (Except.ok.inj ((both none).computed.symm.trans known)).trans calls
    have missing := ((related_answers_agree load .outgoing "h").1 false none).2.1.2 absent
    have run := ((related_answers_agree load .outgoing "h").2.2 rfl (fun _ => none) rfl).1
    rw [listed] at both zero
    refine ⟨built, rfl, both, zero, zero.answered _ (Tool.asks_relatedRequest ..), ?_⟩
    rw [← missing]
    exact run _ true

end CodeGraph
