import CodeGraph.Graph.Adjacency
import Mathlib.Data.List.Count
import Mathlib.Data.List.Perm.Basic

/-!
# Adjacencies and the edges they list

An adjacency is an index of a list of edges. It keeps the order of the list within each bucket, and
forgets how edges of different buckets stand to each other.

Main definition:

- `Adjacency.Lists`: an adjacency holds exactly the edges of a list, by one of their ends.

Main statements:

- `Lists.add`, `Lists.remove`, `Lists.erase`: what an adjacency lists after a change;
- `Lists.edgesAt_some`, `Lists.edgesAt_none_perm`: the edges at a node;
- `Lists.allEdges_perm`: all edges.
-/
namespace CodeGraph

/-- A list without its duplicates has none. -/
theorem nodup_eraseDups {α : Type} [DecidableEq α] : ∀ l : List α, l.eraseDups.Nodup
  | [] => by simp
  | a :: l => by
    have later := nodup_eraseDups (l.filter fun b => !b == a)
    rw [List.eraseDups_cons, List.nodup_cons]
    refine ⟨fun again => ?_, later⟩
    simpa using (List.mem_filter.1 (List.mem_eraseDups.1 again)).2
termination_by l => l.length
decreasing_by exact Nat.lt_succ_of_le (List.length_filter_le _ l)

/-- Two lists whose parts agree, class by class, hold the same members. -/
theorem perm_of_filter_perm {α κ : Type} [DecidableEq κ] (keyOf : α → κ) {l k : List α}
    (h : ∀ c, (l.filter fun a => keyOf a = c).Perm (k.filter fun a => keyOf a = c)) :
    l.Perm k := by
  classical
  refine List.perm_iff_count.2 fun a => ?_
  have same := (h (keyOf a)).count_eq a
  rwa [List.count_filter (by simp), List.count_filter (by simp)] at same

/-- What is erased is in a part of a list, so it is the first such member of that part. -/
theorem filter_eraseP_of_imp {α : Type} {p q : α → Bool} {l : List α}
    (h : ∀ x, q x = true → p x = true) : (l.eraseP q).filter p = (l.filter p).eraseP q := by
  have both : (fun x => q x && p x) = q := by
    funext x
    cases hx : q x
    · rfl
    · rw [h x hx]; rfl
  rw [List.eraseP_filter, both]

/-- What is erased is not in a part of a list, so that part stays. -/
theorem filter_eraseP_of_disjoint {α : Type} {p q : α → Bool} {l : List α}
    (h : ∀ x, q x = true → p x = false) : (l.eraseP q).filter p = l.filter p := by
  rcases List.exists_or_eq_self_of_eraseP q l with same | ⟨x, front, back, -, hx, split, erased⟩
  · rw [same]
  · rw [erased, split]
    simp [h x hx]

/-- In a table of lists whose members know their key, the members of all lists that have a key are
the list under that key. -/
theorem Table.filter_flatten_values {α κ : Type} [DecidableEq κ] (keyOf : α → κ)
    (t : Table κ (List α)) (h : ∀ k as, t.get? k = some as → ∀ a ∈ as, keyOf a = k) (k : κ) :
    t.values.flatten.filter (fun a => keyOf a = k) = (t.get? k).getD [] := by
  obtain ⟨es, distinct⟩ := t
  have own : ∀ e ∈ es, ∀ a ∈ e.2, keyOf a = e.1 := fun e he =>
    h e.1 e.2 (get?_eq_some_iff.2 he)
  clear h
  simp only [values, get?]
  induction es with
  | nil => rfl
  | cons e es ih =>
    have later := ih (List.nodup_cons.1 distinct).2 fun d hd => own d (by simp [hd])
    rw [List.map_cons, List.flatten_cons, List.filter_append, later]
    by_cases here : e.1 = k
    · have all : e.2.filter (fun a => keyOf a = k) = e.2 :=
        List.filter_eq_self.2 fun a ha => by simp [own e (by simp) a ha, here]
      have absent : lookupEntry k es = none := by
        refine get?_eq_none_iff (t := ⟨es, (List.nodup_cons.1 distinct).2⟩).2 fun hk => ?_
        exact (List.nodup_cons.1 distinct).1 (here ▸ hk)
      simp [lookupEntry, here, all, absent]
    · have none_here : e.2.filter (fun a => keyOf a = k) = [] :=
        List.filter_eq_nil_iff.2 fun a ha => by simp [own e (by simp) a ha, here]
      simp [lookupEntry, here, none_here]

theorem Buckets.ofType_insert (b : Buckets) (t u : String) (es : List Edge) :
    Buckets.ofType (b.insert t es) u = if u = t then es else b.ofType u := by
  rw [ofType, Table.get?_insert]
  split <;> rfl

namespace Adjacency

variable {a : Adjacency} {f : Edge → String} {es : List Edge}

theorem bucketsAt_insert (a : Adjacency) (id j : String) (b : Buckets) :
    Adjacency.bucketsAt (a.insert id b) j = if j = id then b else a.bucketsAt j := by
  rw [bucketsAt, Table.get?_insert]
  split <;> rfl

theorem bucketsAt_insertNew (a : Adjacency) (id j : String) :
    Adjacency.bucketsAt (a.insertNew id .empty) j = a.bucketsAt j := by
  rw [bucketsAt, Table.get?_insertNew]
  split
  · next hj => rw [hj]; rfl
  · rfl

theorem bucketsAt_erase (a : Adjacency) (id j : String) :
    Adjacency.bucketsAt (a.erase id) j = if j = id then .empty else a.bucketsAt j := by
  rw [bucketsAt, Table.get?_erase]
  split <;> rfl

/-- An adjacency lists some edges by one of their ends: every bucket holds the edges of its node and
type, in their order. -/
def Lists (a : Adjacency) (endOf : Edge → String) (es : List Edge) : Prop :=
  ∀ id type, (a.bucketsAt id).ofType type = es.filter fun e => endOf e = id ∧ e.type = type

theorem lists_empty (f : Edge → String) : Lists .empty f [] := fun _ _ => rfl

theorem Lists.add (h : a.Lists f es) (e : Edge) : (a.add (f e) e).Lists f (es ++ [e]) := by
  intro id type
  rw [Adjacency.add, bucketsAt_insert, List.filter_append]
  by_cases hid : id = f e
  · rw [if_pos hid, Buckets.ofType_insert]
    by_cases ht : type = e.type
    · rw [if_pos ht, h, hid, ht]
      simp
    · rw [if_neg ht, h, hid]
      simp [Ne.symm ht]
  · rw [if_neg hid, h]
    simp [Ne.symm hid]

/-- The first edge equal to a given one is the first one in its bucket, too. -/
theorem Lists.remove (h : a.Lists f es) {e : Edge} (hf : ∀ x, e.same x = true → f x = f e) :
    (a.remove (f e) e).Lists f (es.eraseP e.same) := by
  have inside : ∀ x, e.same x = true → f x = f e ∧ x.type = e.type := fun x hx =>
    ⟨hf x hx, (Edge.same_iff.1 hx).2.2.1.symm⟩
  intro id type
  rw [Adjacency.remove, bucketsAt_insert]
  by_cases here : id = f e ∧ type = e.type
  · obtain ⟨rfl, rfl⟩ := here
    rw [if_pos rfl, Buckets.ofType_insert, if_pos rfl, h,
      filter_eraseP_of_imp fun x hx => decide_eq_true (inside x hx)]
  · have outside : ∀ x, e.same x = true → decide (f x = id ∧ x.type = type) = false := by
      intro x hx
      obtain ⟨hfx, htx⟩ := inside x hx
      refine decide_eq_false fun hx' => here ⟨?_, ?_⟩
      · rw [← hx'.1, hfx]
      · rw [← hx'.2, htx]
    rw [filter_eraseP_of_disjoint outside, ← h]
    by_cases hid : id = f e
    · have ht : type ≠ e.type := fun ht => here ⟨hid, ht⟩
      rw [if_pos hid, Buckets.ofType_insert, if_neg ht, hid]
    · rw [if_neg hid]

theorem Lists.insertNew (h : a.Lists f es) (id : String) :
    Adjacency.Lists (Table.insertNew a id .empty) f es := by
  intro j type
  rw [bucketsAt_insertNew, h]

theorem Lists.erase (h : a.Lists f es) {id : String} (hid : ∀ e ∈ es, f e ≠ id) :
    Adjacency.Lists (Table.erase a id) f es := by
  intro j type
  rw [bucketsAt_erase]
  split
  · next hj =>
    symm
    exact List.filter_eq_nil_iff.2 fun e he => by simp [hj, hid e he]
  · exact h j type

/-- The edges of some types at a node, type by type. -/
theorem Lists.edgesAt_some (h : a.Lists f es) (id : String) (types : List String) :
    a.edgesAt id (some types) =
      types.eraseDups.flatMap fun t => es.filter fun e => f e = id ∧ e.type = t := by
  have bucket := funext (h id)
  rw [edgesAt, Buckets.select, bucket]

/-- The edges in a bucket have the type of the bucket. -/
theorem Lists.type_eq (h : a.Lists f es) {id type : String} {bucket : List Edge}
    (hb : (a.bucketsAt id).get? type = some bucket) : ∀ e ∈ bucket, e.type = type := by
  intro e he
  have listed := h id type
  rw [Buckets.ofType, hb, Option.getD_some] at listed
  rw [listed] at he
  exact (of_decide_eq_true (List.mem_filter.1 he).2).2

theorem Lists.filter_edgesAt_none (h : a.Lists f es) (id type : String) :
    (a.edgesAt id none).filter (fun e => e.type = type) =
      es.filter fun e => f e = id ∧ e.type = type := by
  rw [← h id type]
  exact Table.filter_flatten_values Edge.type _ (fun _ _ => h.type_eq) type

/-- The edges of all types at a node, in any order. -/
theorem Lists.edgesAt_none_perm (h : a.Lists f es) (id : String) :
    (a.edgesAt id none).Perm (es.filter fun e => f e = id) := by
  refine perm_of_filter_perm Edge.type fun type => .of_eq ?_
  rw [h.filter_edgesAt_none, List.filter_filter]
  congr 1
  funext e
  simp [and_comm]

/-- The edges at a node, of some types or of all, are those of the list that have their end
there. -/
theorem Lists.mem_edgesAt (h : a.Lists f es) {id : String} {types : Option (List String)}
    {e : Edge} : e ∈ a.edgesAt id types ↔
      e ∈ es ∧ f e = id ∧ ∀ selected, types = some selected → e.type ∈ selected := by
  cases types with
  | none => simp [(h.edgesAt_none_perm id).mem_iff]
  | some types =>
    rw [h.edgesAt_some]
    simp only [List.mem_flatMap, List.mem_eraseDups, List.mem_filter, decide_eq_true_eq]
    constructor
    · rintro ⟨t, ht, he, hid, rfl⟩
      exact ⟨he, hid, fun selected same => Option.some.inj same ▸ ht⟩
    · rintro ⟨he, hid, admitted⟩
      exact ⟨e.type, admitted types rfl, he, hid, rfl⟩

/-- All edges are those at the nodes, node by node. -/
theorem allEdges_eq (a : Adjacency) : a.allEdges = a.keys.flatMap fun id => a.edgesAt id none := by
  unfold allEdges Table.values Table.keys
  rw [List.flatMap_map, List.flatMap_map]
  apply List.flatMap_congr
  intro e he
  have found : a.get? e.1 = some e.2 := Table.get?_eq_some_iff.2 he
  rw [edgesAt, bucketsAt, found]
  rfl

/-- The edges at a node are a part of all edges. -/
theorem Lists.filter_allEdges (h : a.Lists f es) (id : String) :
    (a.allEdges.filter fun e => f e = id) = a.edgesAt id none := by
  have flat : a.allEdges = (a.mapValues fun b => b.values.flatten).values.flatten := by
    simp [allEdges, Table.values, Table.mapValues, List.flatMap, Function.comp_def]
  rw [flat, Table.filter_flatten_values f, Table.get?_mapValues]
  · rw [edgesAt, bucketsAt]
    cases a.get? id <;> rfl
  · intro k bucket hk e he
    have here : bucket = a.edgesAt k none := by
      rw [Table.get?_mapValues] at hk
      obtain ⟨b, hb, rfl⟩ := Option.map_eq_some_iff.1 hk
      rw [edgesAt, bucketsAt, hb]
      rfl
    rw [here, (h.edgesAt_none_perm k).mem_iff] at he
    exact of_decide_eq_true (List.mem_filter.1 he).2

/-- All edges, in any order. -/
theorem Lists.allEdges_perm (h : a.Lists f es) : a.allEdges.Perm es := by
  apply perm_of_filter_perm f
  intro id
  rw [h.filter_allEdges]
  exact h.edgesAt_none_perm id

end Adjacency

end CodeGraph
