import CodeGraph.Proofs.CallDepths

/-!
# Runs of searches for depths

A search for a depth enters a node only when it is neither on the way nor settled. So it enters no
node twice, it comes to its end, and then all nodes that it entered are settled. It does not matter
what the memory holds at the start, right depths or wrong ones. When one search hands its memory on
to the next, no node is entered twice by all of them together.

Main definitions:

- `MemoGrows`: what a step may do to the memory;
- `DepthSearch.entered`, `DepthSearch.enteredAll`: the nodes that one search enters, or several over
  one memory;
- `DepthSearch.exploreAll`: the memory that several searches leave;
- `SearchedOnce`: what searches do to a memory, and the nodes that they enter.

Main statements:

- `DepthSearch.Tidy.memoGrows`: a step settles only what is not settled;
- `SearchedOnce.trans`, `DepthSearch.searchedOnce_explore`, `DepthSearch.searchedOnce_exploreAll`:
  one search, and one after the other;
- `Store.depthSearches_exact`: all searches for depths in a graph.
-/
namespace CodeGraph

variable {next : String → List String} {memo mid found : Table String Depth}

/-- A memory after a step: as it was, or with the depth of an id that had none. -/
def MemoGrows (memo found : Table String Depth) : Prop :=
  found = memo ∨ ∃ v d, v ∉ memo.keys ∧ found = memo.insert v d

theorem MemoGrows.keeps (h : MemoGrows memo found) {v : String} {d : Depth}
    (known : memo.get? v = some d) : found.get? v = some d := by
  rcases h with rfl | ⟨w, e, fresh, rfl⟩
  · exact known
  · exact Table.get?_insert_of_not_mem fresh known

/-- Some nodes are entered between two memories: each of them once, and none that was settled
before. In the end these are settled too, and the depths settled before are what they were. -/
structure SearchedOnce (memo found : Table String Depth) (entered : List String) : Prop where
  nodup : entered.Nodup
  fresh : ∀ v ∈ entered, v ∉ memo.keys
  mem_keys_iff : ∀ v, v ∈ found.keys ↔ v ∈ memo.keys ∨ v ∈ entered
  keeps : ∀ v d, memo.get? v = some d → found.get? v = some d

namespace SearchedOnce

theorem refl (memo : Table String Depth) : SearchedOnce memo memo [] where
  nodup := List.nodup_nil
  fresh := by simp
  mem_keys_iff := by simp
  keeps := fun _ _ known => known

/-- What was entered first is settled when the second search begins. -/
theorem trans {vs ws : List String} (h : SearchedOnce memo mid vs)
    (h' : SearchedOnce mid found ws) : SearchedOnce memo found (vs ++ ws) where
  nodup := by
    refine List.nodup_append.2 ⟨h.nodup, h'.nodup, ?_⟩
    rintro v first w second rfl
    exact h'.fresh v second ((h.mem_keys_iff v).2 (.inr first))
  fresh := by
    intro v hv old
    rcases List.mem_append.1 hv with first | second
    · exact h.fresh v first old
    · exact h'.fresh v second ((h.mem_keys_iff v).2 (.inl old))
  mem_keys_iff := by
    intro v
    rw [h'.mem_keys_iff, h.mem_keys_iff, List.mem_append, or_assoc]
  keeps := fun v d known => h'.keeps v d (h.keeps v d known)

end SearchedOnce

namespace DepthSearch

variable {s t : DepthSearch}

/-! ## One search -/

/-- The node that a step settles was not settled before. -/
theorem Tidy.memoGrows (h : Tidy next s) (m : Move next s t) : MemoGrows s.memo t.memo := by
  cases m with
  | idle => exact .inl rfl
  | turn => exact .inl rfl
  | remember => exact .inl rfl
  | descend => exact .inl rfl
  | finish hs => exact .inr ⟨_, _, h.unsettled _ (h.top_on_path hs), rfl⟩
  | settle hs => exact .inr ⟨_, _, h.unsettled _ (h.top_on_path hs), rfl⟩

theorem Tidy.keeps_run (h : Tidy next s) (n : Nat) {v : String} {d : Depth}
    (known : s.memo.get? v = some d) : (DepthSearch.run next n s).memo.get? v = some d := by
  induction n generalizing s with
  | zero => exact known
  | succ n ih => exact ih h.step ((h.memoGrows (move_step next s)).keeps known)

theorem run_succ (next : String → List String) (n : Nat) (s : DepthSearch) :
    run next (n + 1) s = step next (run next n s) := by
  rw [run_eq_iterate, run_eq_iterate, Function.iterate_succ_apply']

/-- The nodes that a search from a node puts on its stack, the first one first: the node itself,
unless it is settled, and then what its steps push. -/
def entered (next : String → List String) (steps : Nat) (memo : Table String Depth)
    (id : String) : List String :=
  if memo.contains id then [] else id :: pushes (step next) stackIds steps (start next memo id)

/-- A search that comes to its end enters nodes once, and settles them. -/
theorem searchedOnce_explore {id : String} {steps : Nat}
    (ended : id ∉ memo.keys → (run next steps (start next memo id)).stack = []) :
    SearchedOnce memo (explore next steps memo id) (entered next steps memo id) := by
  rw [explore, entered]
  split
  · exact .refl memo
  · next unknown =>
    have fresh : id ∉ memo.keys := fun known => unknown (Table.contains_iff.2 known)
    have begun := tidy_start next fresh
    have new (v : String) (hv : v ∈ pushes (step next) stackIds steps (start next memo id)) :
        v ∉ memo.keys ∧ v ≠ id := by
      have apart := not_met_of_mem_pushes begun.meetsPushed_run hv
      rwa [mem_met_start, not_or] at apart
    refine ⟨?_, ?_, ?_, ?_⟩
    · rw [List.nodup_cons]
      exact ⟨fun again => (new id again).2 rfl, nodup_pushes begun.meetsPushed_run steps⟩
    · exact List.forall_mem_cons.2 ⟨fresh, fun v hv => (new v hv).1⟩
    · intro v
      rw [begun.mem_keys_run_iff (ended fresh), mem_met_start, List.mem_cons, or_assoc]
    · exact fun v d known => begun.keeps_run steps known

/-! ## Several searches over one memory -/

/-- The memory after a search from each of some nodes, one after the other. -/
def exploreAll (next : String → List String) (steps : Nat) (memo : Table String Depth)
    (ids : List String) : Table String Depth :=
  ids.foldl (explore next steps) memo

/-- The nodes that these searches put on their stacks. -/
def enteredAll (next : String → List String) (steps : Nat) :
    Table String Depth → List String → List String
  | _, [] => []
  | memo, id :: ids =>
    entered next steps memo id ++ enteredAll next steps (explore next steps memo id) ids

section All

variable {steps : Nat} {ids : List String}

theorem searchedOnce_exploreAll
    (ended : ∀ memo, ∀ id ∉ memo.keys, (run next steps (start next memo id)).stack = []) :
    SearchedOnce memo (exploreAll next steps memo ids) (enteredAll next steps memo ids) := by
  induction ids generalizing memo with
  | nil => exact .refl memo
  | cons id ids ih => exact (searchedOnce_explore (ended memo id)).trans ih

theorem settled_exploreAll (settled : Settled next memo) :
    Settled next (exploreAll next steps memo ids) := by
  induction ids generalizing memo with
  | nil => exact settled
  | cons id ids ih => exact ih (settled_explore settled steps id)

/-- Every node from which a search starts is settled in the end. -/
theorem mem_keys_exploreAll
    (ended : ∀ memo, ∀ id ∉ memo.keys, (run next steps (start next memo id)).stack = [])
    {v : String} (hv : v ∈ ids) : v ∈ (exploreAll next steps memo ids).keys := by
  induction ids generalizing memo with
  | nil => cases hv
  | cons id ids ih =>
    rcases List.mem_cons.1 hv with rfl | later
    · have settled := mem_keys_explore (ended memo v)
      have others : SearchedOnce (explore next steps memo v)
        (exploreAll next steps memo (v :: ids)) _ := searchedOnce_exploreAll ended
      exact (others.mem_keys_iff v).2 (.inl settled)
    · exact ih later

end All

end DepthSearch

namespace Store

variable {g : Store}

/-- In a graph a search over all nodes of a list settles each of them with its depth. -/
theorem Reachable.exploreAll_get? (h : g.Reachable) {types members : Option (List String)}
    {memo : Table String Depth} (settled : Settled (g.successors types members) memo)
    {ids : List String} {id : String} (hid : id ∈ ids) :
    let next := g.successors types members
    (DepthSearch.exploreAll next (g.depthSteps next) memo ids).get? id =
      some (g.longestChain id types members) := by
  intro next
  have known : id ∈ (DepthSearch.exploreAll next (g.depthSteps next) memo ids).keys :=
    DepthSearch.mem_keys_exploreAll (fun _ _ fresh => h.explore_finished types members fresh) hid
  obtain ⟨d, found⟩ := Option.ne_none_iff_exists'.1 fun new => Table.get?_eq_none_iff.1 new known
  have right := DepthSearch.settled_exploreAll settled id d found
  rw [found, right.unique (h.longestChain_isOf id types members)]

/-- A search for a depth in a graph enters no node twice, and none that is settled, whatever its
memory holds at the start. It settles all nodes that it enters, among them the node from which it
starts, and keeps what was settled. It comes to its end; and at every step before, the nodes on the
way are those of the stack, and the memory takes in at most the depth of one node that had none.
When the depths of all nodes of some types are found over one memory, no node is entered twice by
all searches together, every node entered is settled in the end, and the depths listed are those of
the memory. -/
theorem depthSearches_exact (h : g.Reachable) :
    (∀ types members memo id,
      let next := g.successors types members
      let steps := g.depthSteps next
      let found := DepthSearch.explore next steps memo id
      let search (n : Nat) := DepthSearch.run next n (DepthSearch.start next memo id)
      SearchedOnce memo found (DepthSearch.entered next steps memo id) ∧ id ∈ found.keys ∧
      (id ∉ memo.keys → (search steps).stack = [] ∧
        ∀ n, DepthSearch.Tidy next (search n) ∧
          MemoGrows (search n).memo (search (n + 1)).memo)) ∧
    (∀ types members id,
      let next := g.successors types members
      (DepthSearch.explore next (g.depthSteps next) .empty id).get? id =
        some (g.longestChain id types members)) ∧
    ∀ types,
      let next := g.successors (some [EdgeType.calls]) none
      let steps := g.depthSteps next
      let found := DepthSearch.exploreAll next steps .empty (g.scope types)
      SearchedOnce .empty found (DepthSearch.enteredAll next steps .empty (g.scope types)) ∧
      (∀ id ∈ g.scope types, id ∈ found.keys) ∧
      ∀ id d, (id, d) ∈ g.allCallDepths types ↔ id ∈ g.scope types ∧ found.get? id = some d := by
  have nothing_settled (next : String → List String) : Settled next .empty := by
    intro v d found
    cases found
  refine ⟨?_, ?_, ?_⟩
  · intro types members memo id next steps found search
    have ended (fresh : id ∉ memo.keys) := h.explore_finished types members fresh
    refine ⟨DepthSearch.searchedOnce_explore ended, DepthSearch.mem_keys_explore ended, ?_⟩
    intro fresh
    refine ⟨ended fresh, fun n => ?_⟩
    have tidy : DepthSearch.Tidy next (search n) := (DepthSearch.tidy_start next fresh).run n
    refine ⟨tidy, ?_⟩
    have stepped : search (n + 1) = DepthSearch.step next (search n) :=
      DepthSearch.run_succ next n _
    rw [stepped]
    exact tidy.memoGrows (DepthSearch.move_step next _)
  · intro types members id
    exact h.explore_get? (nothing_settled _) id
  · intro types next steps found
    have ended (memo : Table String Depth) (id : String) (fresh : id ∉ memo.keys) :=
      h.explore_finished (some [EdgeType.calls]) none fresh
    refine ⟨DepthSearch.searchedOnce_exploreAll ended, fun id hid => ?_, fun id d => ?_⟩
    · exact DepthSearch.mem_keys_exploreAll ended hid
    · rw [h.mem_allCallDepths_iff]
      refine and_congr_right fun hid => ?_
      rw [h.exploreAll_get? (nothing_settled _) hid, Option.some.injEq]

/-- Of three functions the first two call each other. A search from the first one enters these two
when the memory holds a depth for the third, though a wrong one; the searches from all three enter
each of them once. -/
theorem depthSearches_exact_callPair :
    let next := callPair.successors (some [EdgeType.calls]) none
    let memo : Table String Depth := .ofList [("h", .finite 7)]
    callPair.Reachable ∧ "f" ∉ memo.keys ∧
    SearchedOnce memo (DepthSearch.explore next 7 memo "f") ["f", "g"] ∧
    (DepthSearch.run next 7 (DepthSearch.start next memo "f")).stack = [] ∧
    SearchedOnce .empty (DepthSearch.exploreAll next 7 .empty ["f", "g", "h"]) ["f", "g", "h"] := by
  intro next memo
  have reachable : callPair.Reachable := ⟨_, rfl⟩
  have steps : callPair.depthSteps next = 7 := by decide
  have functions : callPair.scope (some [NodeType.function]) = ["f", "g", "h"] := by decide
  obtain ⟨single, -, all⟩ := depthSearches_exact reachable
  obtain ⟨once, -, ends⟩ := single (some [EdgeType.calls]) none memo "f"
  obtain ⟨together, -, -⟩ := all (some [NodeType.function])
  have fresh : "f" ∉ memo.keys := by decide
  have first : DepthSearch.entered next 7 memo "f" = ["f", "g"] := by decide
  have each : DepthSearch.enteredAll next 7 .empty ["f", "g", "h"] = ["f", "g", "h"] := by decide
  rw [steps, first] at once
  rw [steps, functions, each] at together
  have ended := (ends fresh).1
  rw [steps] at ended
  exact ⟨reachable, fresh, once, ended, together⟩

end Store

end CodeGraph
