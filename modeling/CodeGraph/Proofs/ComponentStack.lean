import CodeGraph.Proofs.Components

/-!
# The stack of a search for components

The search keeps a stack, a set of what is on it, the way to the node it looks at, numbers, links
and the components that are complete. At every step these go together: the numbers grow up the
stack, and a node that was met is on the stack or in one component. So the node whose component is
complete is found on the stack, and no node is entered a second time.

Main definitions:

- `ComponentSearch.Consistent`: how the parts of a search go together;
- `ComponentSearch.popTo?`, `ComponentSearch.leaveByPops?`: a component taken from the stack one
  node at a time;
- `ComponentSearch.visits`: the nodes entered, in their order;
- `Store.componentSearch`: the search for the components of a selection, after some steps.

Main statements:

- `ComponentSearch.Shape.consistent`, `ComponentSearch.Shape.leaveByPops?_eq`: what follows from the
  shape of a search;
- `ComponentSearch.Move.meetsPushed`: only new nodes are entered;
- `Store.componentSearch_consistent`: this holds at every step of every search.
-/
namespace CodeGraph

section Counting

variable {cs : List (List String)} {v : String}

theorem countP_mem_of_not_mem_flatten (hv : v ∉ cs.flatten) : cs.countP (v ∈ ·) = 0 := by
  rw [List.countP_eq_zero]
  intro c hc
  rw [decide_eq_true_eq]
  exact fun member => hv (List.mem_flatten.2 ⟨c, hc, member⟩)

/-- Lists that share no member have each of their members in one of them. -/
theorem countP_mem_of_mem_flatten (distinct : cs.flatten.Nodup) (hv : v ∈ cs.flatten) :
    cs.countP (v ∈ ·) = 1 := by
  induction cs with
  | nil => cases hv
  | cons c cs ih =>
    rw [List.flatten_cons, List.nodup_append] at distinct
    rw [List.flatten_cons, List.mem_append] at hv
    obtain ⟨-, rest, apart⟩ := distinct
    by_cases here : v ∈ c
    · have nowhere : v ∉ cs.flatten := fun later => apart v here v later rfl
      rw [List.countP_cons_of_pos (by simpa using here), countP_mem_of_not_mem_flatten nowhere]
    · rw [List.countP_cons_of_neg (by simpa using here)]
      exact ih rest (hv.resolve_left here)

end Counting

namespace ComponentSearch

variable {next : String → List String} {all : List String} {s t : ComponentSearch}

/-- How the stack of a search, the set beside it, the way, the numbers, the links and the components
go together. -/
structure Consistent (s : ComponentSearch) : Prop where
  stack_nodup : s.stack.Nodup
  stack_met : ∀ v ∈ s.stack, v ∈ s.met
  /-- From the bottom of the stack to its top the numbers grow. -/
  stack_increasing : s.stack.reverse.Pairwise fun u v => s.indexOf u < s.indexOf v
  onStack_iff : ∀ v, v ∈ s.onStack ↔ v ∈ s.stack
  way_sublist : s.way.Sublist s.stack
  /-- A node that was met is on the stack or in exactly one component. -/
  placed : ∀ v ∈ s.met,
    v ∈ s.stack ∧ s.done.countP (v ∈ ·) = 0 ∨ v ∉ s.stack ∧ s.done.countP (v ∈ ·) = 1
  numbered : ∀ v ∈ s.met, s.index.get? v = some (s.indexOf v) ∧
    s.link.get? v = some (s.linkOf v) ∧ s.linkOf v ≤ s.indexOf v

theorem Shape.placed (h : Shape next all s) {v : String} (hv : v ∈ s.met) :
    v ∈ s.stack ∧ s.done.countP (v ∈ ·) = 0 ∨ v ∉ s.stack ∧ s.done.countP (v ∈ ·) = 1 := by
  by_cases on : v ∈ s.stack
  · exact .inl ⟨on, countP_mem_of_not_mem_flatten (h.not_closed on)⟩
  · have closed_v : v ∈ s.closed := ((h.met_iff v).1 hv).resolve_right on
    exact .inr ⟨on, countP_mem_of_mem_flatten (List.nodup_append.1 h.nodup).1 closed_v⟩

theorem Shape.numbered (h : Shape next all s) {v : String} (hv : v ∈ s.met) :
    s.index.get? v = some (s.indexOf v) ∧ s.link.get? v = some (s.linkOf v) ∧
      s.linkOf v ≤ s.indexOf v := by
  have linked : v ∈ s.link.keys := by
    rw [h.link_keys]
    exact hv
  obtain ⟨m, index_eq⟩ := Option.ne_none_iff_exists'.1 fun new => Table.get?_eq_none_iff.1 new hv
  obtain ⟨n, link_eq⟩ := Option.ne_none_iff_exists'.1 fun new =>
    Table.get?_eq_none_iff.1 new linked
  refine ⟨?_, ?_, h.link_le v hv⟩
  · rw [indexOf, index_eq, Option.getD_some]
  · rw [linkOf, link_eq, Option.getD_some]

theorem Shape.consistent (h : Shape next all s) : s.Consistent where
  stack_nodup := h.stack_nodup
  stack_met := fun _ => h.stack_met
  stack_increasing := List.pairwise_reverse.2 h.stack_sorted
  onStack_iff := h.onStack_iff
  way_sublist := h.way_sublist
  placed := fun _ => h.placed
  numbered := fun _ => h.numbered

/-! ## Taking a component from the stack -/

/-- Take nodes from the top of a stack, and out of the set beside it, up to a given node: what was
taken, and what is left of the stack and of the set. Nothing comes of it when the stack is empty
first. -/
def popTo? (id : String) :
    List String → List String → Option (List String × List String × List String)
  | [], _ => none
  | v :: stack, onStack =>
    let left := onStack.filter (· ≠ v)
    if v = id then some ([v], stack, left)
    else (popTo? id stack left).map fun popped => (v :: popped.1, popped.2)

/-- Leave a node all of whose edges were looked at, and take its component from the stack one node
at a time. -/
def leaveByPops? (id : String) (s : ComponentSearch) : Option ComponentSearch :=
  let s := s.handOver id
  if s.linkOf id = s.indexOf id then
    (popTo? id s.stack s.onStack).map fun popped =>
      { s with
        stack := popped.2.1
        onStack := popped.2.2
        done := s.done ++ [popped.1.reverse] }
  else some s

/-- A node that is on the stack is met before the stack is empty. -/
theorem popTo?_of_mem {id : String} {stack : List String} (h : id ∈ stack)
    (onStack : List String) :
    popTo? id stack onStack = some (stack.takeWhile (· ≠ id) ++ [id],
      (stack.dropWhile (· ≠ id)).drop 1,
      onStack.filter fun v => !(stack.takeWhile (· ≠ id) ++ [id]).contains v) := by
  induction stack generalizing onStack with
  | nil => cases h
  | cons v stack ih =>
    by_cases same : v = id
    · simp [popTo?, same]
    · have later : id ∈ stack := (List.mem_cons.1 h).resolve_left fun e => same e.symm
      simp [popTo?, same, ih later, List.filter_filter, Bool.and_comm]

theorem leaveByPops?_of_mem {id : String} (h : id ∈ s.stack) :
    s.leaveByPops? id = some (s.leave id) := by
  have on : id ∈ (s.handOver id).stack := by rwa [(handOver_eq s id).2]
  unfold leaveByPops? leave
  dsimp only
  split
  · rw [popTo?_of_mem on]
    rfl
  · rfl

/-- The node that a step leaves is on the stack. -/
theorem Shape.leaveByPops?_eq (h : Shape next all s) {id : String}
    {rest : List (String × List String)} (hw : s.work = (id, []) :: rest) :
    leaveByPops? id { s with work := rest } = some (step next s) := by
  have on : id ∈ s.stack := h.way_stack (mem_way_of_work hw)
  have left : step next s = ComponentSearch.leave id { s with work := rest } := by
    simp [step, hw]
  rw [left]
  exact leaveByPops?_of_mem on

/-! ## The nodes entered -/

/-- The nodes that so many steps enter, the first one first. -/
def visits (next : String → List String) (n : Nat) (s : ComponentSearch) : List String :=
  pushes (step next) way n s

/-- A step meets the node that it enters, and no other one. -/
theorem Move.meetsPushed (m : Move next s t) : MeetsPushed met way s t := by
  have entered (u : ComponentSearch) {id : String} (fresh : id ∉ u.met) (v : String) :
      v ∈ (u.enter next id).met ↔ v ∈ u.met ∨ v = id := by
    rw [met_enter u fresh, List.mem_append, List.mem_singleton]
  cases m with
  | idle => exact .of_shorter le_rfl fun _ => .rfl
  | skip => exact .of_shorter le_rfl fun _ => .rfl
  | @start root roots hw hr fresh =>
    exact .of_push fresh rfl (entered { s with roots := roots } fresh)
  | @descend id t ts rest hw fresh =>
    have way_eq : way { s with work := (id, ts) :: rest } = s.way := by simp [way, hw]
    exact .of_push fresh (congrArg (List.cons t) way_eq)
      (entered { s with work := (id, ts) :: rest } fresh)
  | look hw => exact .of_shorter (by simp [way, hw, lower]) fun _ => .rfl
  | pass hw => exact .of_shorter (by simp [way, hw]) fun _ => .rfl
  | @leave id rest hw =>
    obtain ⟨-, met_eq, work_eq⟩ := leave_eq { s with work := rest } id
    refine .of_shorter ?_ fun v => ?_
    · rw [way, work_eq, way, hw]
      simp
    · rw [met_eq]
      rfl

theorem run_eq_iterate (next : String → List String) (n : Nat) (s : ComponentSearch) :
    run next n s = (step next)^[n] s := by
  induction n generalizing s with
  | zero => rfl
  | succ n ih => exact ih (step next s)

theorem run_succ (next : String → List String) (n : Nat) (s : ComponentSearch) :
    run next (n + 1) s = step next (run next n s) := by
  rw [run_eq_iterate, run_eq_iterate, Function.iterate_succ_apply']

theorem mem_met_run_iff {n : Nat} {v : String} :
    v ∈ (run next n s).met ↔ v ∈ s.met ∨ v ∈ visits next n s := by
  rw [run_eq_iterate]
  exact mem_met_iterate fun _ => (move_step next _).meetsPushed

theorem nodup_visits (next : String → List String) (n : Nat) (s : ComponentSearch) :
    (visits next n s).Nodup :=
  nodup_pushes (fun _ => (move_step next _).meetsPushed) n

end ComponentSearch

namespace Store

/-- The search for the components of a selection, after some steps. A step looks at one edge, or
enters or leaves one node, so these are all the states between two such turns. -/
def componentSearch (g : Store) (s : Selection) (n : Nat) : ComponentSearch :=
  ComponentSearch.run (g.selectedSuccessors s) n { roots := g.selected s }

/-- The nodes that the search for the components of a selection enters in some steps. -/
def componentVisits (g : Store) (s : Selection) (n : Nat) : List String :=
  ComponentSearch.visits (g.selectedSuccessors s) n { roots := g.selected s }

theorem shape_componentSearch (g : Store) (s : Selection) (n : Nat) :
    ComponentSearch.Shape (g.selectedSuccessors s) (g.selected s) (g.componentSearch s n) :=
  have within : ∀ u, ∀ v ∈ g.selectedSuccessors s u, v ∈ g.selected s := fun _ _ =>
    mem_selected_of_mem_selectedSuccessors
  ((ComponentSearch.sound_start _ _).run within n).shape

/-- At every step of a search for components the stack, its set, the way, the numbers, the links and
the components go together. When a node is left, taking nodes from the stack one at a time comes to
it before the stack is empty, and gives the outcome of the step. The nodes met are those that were
entered, and none of them is entered twice. After some steps the search is over and has found the
components. -/
theorem componentSearch_consistent (g : Store) (s : Selection) :
    (∀ n, (g.componentSearch s n).Consistent) ∧
    (∀ n id rest, (g.componentSearch s n).work = (id, []) :: rest →
      ComponentSearch.leaveByPops? id { g.componentSearch s n with work := rest } =
        some (g.componentSearch s (n + 1))) ∧
    (∀ n, (g.componentVisits s n).Nodup ∧
      ∀ v, v ∈ (g.componentSearch s n).met ↔ v ∈ g.componentVisits s n) ∧
    ∃ n, (g.componentSearch s n).Finished ∧ (g.componentSearch s n).done = g.allComponents s := by
  have shape := g.shape_componentSearch s
  refine ⟨fun n => (shape n).consistent, fun n id rest hw => ?_, fun n => ⟨?_, ?_⟩,
    2 * (g.selected s).length + g.selectedEdgeCount s, ?_, rfl⟩
  · rw [(shape n).leaveByPops?_eq hw, componentSearch, componentSearch,
      ComponentSearch.run_succ]
  · exact ComponentSearch.nodup_visits _ n _
  · intro v
    have none_met : v ∉ ComponentSearch.met { roots := g.selected s } := List.not_mem_nil
    rw [componentSearch, ComponentSearch.mem_met_run_iff]
    exact or_iff_right none_met
  · refine ComponentSearch.finished_run (nodup_selected g s)
      (fun _ _ => mem_selected_of_mem_selectedSuccessors) ?_
    rw [selectedEdgeCount, foldl_length, Nat.zero_add]

/-- Of three functions the first two call each other. When the first one is left, both are taken
from the stack, the later one first. -/
theorem componentSearch_consistent_callPair :
    (callPair.componentSearch .callGraph 6).work = [("f", [])] ∧
    ComponentSearch.popTo? "f" ["g", "f"] ["g", "f"] = some (["g", "f"], [], []) ∧
    ComponentSearch.leaveByPops? "f" { callPair.componentSearch .callGraph 6 with work := [] } =
      some (callPair.componentSearch .callGraph 7) ∧
    (callPair.componentSearch .callGraph 7).done = [["h"], ["f", "g"]] ∧
    callPair.componentVisits .callGraph 7 = ["f", "g", "h"] := by
  have left : (callPair.componentSearch .callGraph 6).work = [("f", [])] := by decide
  obtain ⟨-, leaving, -, -⟩ := componentSearch_consistent callPair .callGraph
  exact ⟨left, by decide, leaving 6 "f" [] left, by decide, by decide⟩

end Store

end CodeGraph
