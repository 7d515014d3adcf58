import CodeGraph.Proofs.Adjacency
import Mathlib.Data.List.Induction

/-!
# Lists by classes

The members of a list can be put together by their keys. Tables do this when they are filled from a
list: keys stand in the order in which they first come up, and the members of a key in the order of
the list.

Main definition:

- `grouped`: the members of a list by their keys.

Main statements:

- `grouped_perm`: nothing is lost and nothing comes in;
- `grouped_append`, `Table.grouped_values`: lists that are grouped already;
- `keysOf_foldl`, `Table.values_group`: what filling a table from a list makes of it.
-/
namespace CodeGraph

variable {α κ : Type} [DecidableEq κ]

/-! ## First occurrences -/

theorem eraseDups_concat (ks : List κ) (k : κ) :
    (ks ++ [k]).eraseDups = if k ∈ ks then ks.eraseDups else ks.eraseDups ++ [k] := by
  have single : [k].eraseDups = [k] := List.eraseDups_cons
  rw [List.eraseDups_append]
  by_cases old : k ∈ ks <;> simp [List.removeAll, old, single]

theorem eraseDups_of_nodup {ks : List κ} (distinct : ks.Nodup) : ks.eraseDups = ks := by
  induction ks with
  | nil => rfl
  | cons k ks ih =>
    obtain ⟨new, distinct⟩ := List.nodup_cons.1 distinct
    have others : (ks.filter fun j => !j == k) = ks := by
      apply List.filter_eq_self.2
      intro j hj
      have other : j ≠ k := fun same => new (same ▸ hj)
      simpa using other
    rw [List.eraseDups_cons, others, ih distinct]

theorem eraseDups_append_of_disjoint {ks js : List κ} (apart : ks.Disjoint js) :
    (ks ++ js).eraseDups = ks.eraseDups ++ js.eraseDups := by
  have others : js.removeAll ks = js := by
    apply List.filter_eq_self.2
    intro j hj
    have other : j ∉ ks := fun old => apart old hj
    simpa using other
  rw [List.eraseDups_append, others]

/-- Dropping members leaves the order of the others, so it may as well be done first. -/
theorem filter_eraseDups (p : κ → Bool) (ks : List κ) :
    ks.eraseDups.filter p = (ks.filter p).eraseDups := by
  induction ks using List.reverseRecOn with
  | nil => rfl
  | append_singleton ks k ih =>
    rw [eraseDups_concat, List.filter_append]
    cases keep : p k with
    | false =>
      rw [List.filter_cons_of_neg (by simp [keep]), List.filter_nil, List.append_nil, ← ih]
      by_cases old : k ∈ ks
      · rw [if_pos old]
      · simp [old, keep]
    | true =>
      rw [List.filter_cons_of_pos keep, List.filter_nil, eraseDups_concat, ← ih]
      by_cases old : k ∈ ks
      · rw [if_pos old, if_pos (List.mem_filter.2 ⟨old, keep⟩)]
      · rw [if_neg old, if_neg fun again => old (List.mem_filter.1 again).1, List.filter_append,
          List.filter_cons_of_pos keep, List.filter_nil]

/-- When every step brings in a key at the end unless it is there, the keys stand in the order in
which they first come up. -/
theorem keysOf_foldl {σ : Type} (keysOf : σ → List κ) {step : σ → α → σ} {keyOf : α → κ} {s : σ}
    (start : keysOf s = [])
    (grow : ∀ s a, keysOf (step s a) =
      if keyOf a ∈ keysOf s then keysOf s else keysOf s ++ [keyOf a])
    (as : List α) : keysOf (as.foldl step s) = (as.map keyOf).eraseDups := by
  induction as using List.reverseRecOn with
  | nil => exact start
  | append_singleton as a ih =>
    rw [List.foldl_append, List.foldl_cons, List.foldl_nil, grow, ih, List.map_append,
      List.map_singleton, eraseDups_concat]
    simp only [List.mem_eraseDups]

/-! ## Classes -/

/-- Under distinct keys, a class has one member. -/
theorem filter_key_eq_singleton (keyOf : α → κ) {as : List α} (distinct : (as.map keyOf).Nodup)
    {a : α} (ha : a ∈ as) : (as.filter fun b => keyOf b = keyOf a) = [a] := by
  induction as with
  | nil => cases ha
  | cons b as ih =>
    obtain ⟨new, distinct⟩ := List.nodup_cons.1 distinct
    rcases List.mem_cons.1 ha with rfl | ha
    · have others : (as.filter fun b => keyOf b = keyOf a) = [] := by
        apply List.filter_eq_nil_iff.2
        intro b hb same
        exact new (of_decide_eq_true same ▸ List.mem_map_of_mem hb)
      rw [List.filter_cons_of_pos (by simp), others]
    · have other : keyOf b ≠ keyOf a := fun same => new (same ▸ List.mem_map_of_mem ha)
      rw [List.filter_cons_of_neg (by simpa using other), ih distinct ha]

/-- A list is put together again from its classes. -/
theorem flatMap_filter_perm (keyOf : α → κ) {ks : List κ} (distinct : ks.Nodup) {as : List α}
    (all : ∀ a ∈ as, keyOf a ∈ ks) :
    (ks.flatMap fun k => as.filter fun a => keyOf a = k).Perm as := by
  induction ks generalizing as with
  | nil =>
    have empty : as = [] := List.eq_nil_iff_forall_not_mem.2 fun a ha => by simpa using all a ha
    simp [empty]
  | cons k ks ih =>
    obtain ⟨new, distinct⟩ := List.nodup_cons.1 distinct
    -- the members of the other classes are all in the rest of the list
    have rest : ∀ j ∈ ks, (as.filter fun a => keyOf a = j) =
        (as.filter fun a => !decide (keyOf a = k)).filter fun a => keyOf a = j := by
      intro j hj
      rw [List.filter_filter]
      apply List.filter_congr
      intro a _
      by_cases here : keyOf a = j
      · have other : keyOf a ≠ k := fun same => new (same ▸ here ▸ hj)
        simp [here, here ▸ other]
      · simp [here]
    have others : ∀ a ∈ as.filter fun a => !decide (keyOf a = k), keyOf a ∈ ks := by
      intro a ha
      obtain ⟨ha, other⟩ := List.mem_filter.1 ha
      have other : keyOf a ≠ k := by simpa using other
      exact (List.mem_cons.1 (all a ha)).resolve_left other
    rw [List.flatMap_cons, List.flatMap_congr rest]
    exact ((ih distinct others).append_left _).trans (List.filter_append_perm _ as)

/-- The members of a list by their keys, keys in the order in which they first come up. -/
def grouped (keyOf : α → κ) (as : List α) : List α :=
  (as.map keyOf).eraseDups.flatMap fun k => as.filter fun a => keyOf a = k

variable {keyOf : α → κ} {as bs : List α}

/-- Grouping loses nothing and brings in nothing. -/
theorem grouped_perm (keyOf : α → κ) (as : List α) : (grouped keyOf as).Perm as := by
  apply flatMap_filter_perm keyOf (nodup_eraseDups _)
  intro a ha
  exact List.mem_eraseDups.2 (List.mem_map_of_mem ha)

/-- Lists without a common key are grouped one after the other. -/
theorem grouped_append (apart : (as.map keyOf).Disjoint (bs.map keyOf)) :
    grouped keyOf (as ++ bs) = grouped keyOf as ++ grouped keyOf bs := by
  unfold grouped
  rw [List.map_append, eraseDups_append_of_disjoint apart, List.flatMap_append]
  congr 1
  · apply List.flatMap_congr
    intro k hk
    have absent : (bs.filter fun b => keyOf b = k) = [] := by
      apply List.filter_eq_nil_iff.2
      intro b hb named
      have listed : k ∈ bs.map keyOf := of_decide_eq_true named ▸ List.mem_map_of_mem hb
      exact apart (List.mem_eraseDups.1 hk) listed
    rw [List.filter_append, absent, List.append_nil]
  · apply List.flatMap_congr
    intro k hk
    have absent : (as.filter fun a => keyOf a = k) = [] := by
      apply List.filter_eq_nil_iff.2
      intro a ha named
      have listed : k ∈ as.map keyOf := of_decide_eq_true named ▸ List.mem_map_of_mem ha
      exact apart listed (List.mem_eraseDups.1 hk)
    rw [List.filter_append, absent, List.nil_append]

/-- A single class is grouped already. -/
theorem grouped_eq_self {k : κ} (same : ∀ a ∈ as, keyOf a = k) : grouped keyOf as = as := by
  cases as with
  | nil => rfl
  | cons a as =>
    obtain ⟨first, later⟩ := List.forall_mem_cons.1 same
    have no_other : ((as.map keyOf).filter fun j => !j == k) = [] := by
      apply List.filter_eq_nil_iff.2
      intro j hj
      obtain ⟨b, hb, rfl⟩ := List.mem_map.1 hj
      simp [later b hb]
    unfold grouped
    rw [List.map_cons, first, List.eraseDups_cons, no_other, List.eraseDups_nil,
      List.flatMap_singleton]
    apply List.filter_eq_self.2
    intro b hb
    exact decide_eq_true (same b hb)

namespace Table

/-- The lists of a table whose members know their key are grouped already. -/
theorem grouped_values (keyOf : α → κ) (t : Table κ (List α))
    (own : ∀ k as, t.get? k = some as → ∀ a ∈ as, keyOf a = k) :
    grouped keyOf t.values.flatten = t.values.flatten := by
  obtain ⟨es, distinct⟩ := t
  have listed : ∀ e ∈ es, ∀ a ∈ e.2, keyOf a = e.1 := fun e he =>
    own e.1 e.2 (get?_eq_some_iff.2 he)
  clear own
  show grouped keyOf (es.map Prod.snd).flatten = (es.map Prod.snd).flatten
  induction es with
  | nil => rfl
  | cons e es ih =>
    obtain ⟨new, distinct⟩ := List.nodup_cons.1 distinct
    obtain ⟨first, later⟩ := List.forall_mem_cons.1 listed
    have apart : (e.2.map keyOf).Disjoint ((es.map Prod.snd).flatten.map keyOf) := by
      intro k here there
      obtain ⟨a, ha, rfl⟩ := List.mem_map.1 here
      obtain ⟨b, hb, same⟩ := List.mem_map.1 there
      obtain ⟨bucket, hbucket, hb⟩ := List.mem_flatten.1 hb
      obtain ⟨d, hd, rfl⟩ := List.mem_map.1 hbucket
      rw [later d hd b hb, first a ha] at same
      exact new (same ▸ List.mem_map_of_mem hd)
    rw [List.map_cons, List.flatten_cons, grouped_append apart, grouped_eq_self first,
      ih distinct later]

theorem keys_group (es : List (κ × α)) : (group es).keys = (es.map Prod.fst).eraseDups := by
  have grow (t : Table κ (List α)) (e : κ × α) :
      (t.upsert e.1 fun vs => vs.getD [] ++ [e.2]).keys =
        if e.1 ∈ t.keys then t.keys else t.keys ++ [e.1] := keys_insert ..
  exact keysOf_foldl keys rfl grow es

/-- A table that is filled from a list holds its members by their keys. -/
theorem values_group (keyOf : α → κ) (as : List α) :
    (group (as.map fun a => (keyOf a, a))).values.flatten = grouped keyOf as := by
  have keys : (as.map fun a => (keyOf a, a)).map Prod.fst = as.map keyOf := by
    rw [List.map_map]
    rfl
  have members (k : κ) : ((as.map fun a => (keyOf a, a)).filter fun e => e.1 = k).map Prod.snd =
      as.filter fun a => keyOf a = k := by
    rw [List.filter_map, List.map_map]
    exact List.map_id _
  unfold values grouped
  rw [entries_group, keys_group, keys, List.map_map, List.flatMap_def]
  simp only [Function.comp_def, members]

end Table

end CodeGraph
