/-!
# Insertion-ordered tables

A `Table` maps keys to values and remembers the order in which its keys first came in. Inserting
under a key that is already there replaces the value and leaves the key where it stands; a key that
is erased and inserted again goes to the end. No key stands twice, which the type records.

Main statements:

- `keys_insert`: an insertion adds at most its own key, at the end;
- `get?_insert`, `get?_erase`: what a look-up finds after each change;
- `get?_eq_some_iff`: a look-up finds exactly the entries of the table;
- `get?_tally`, `get?_group`: what a tally counts and what a group lists;
- `mem_keys_group`, `entries_group`: the entries of a group.
-/
namespace CodeGraph

/-- A finite map whose entries stand in the order their keys first came in. -/
structure Table (κ ν : Type) where
  /-- The entries, oldest key first. -/
  entries : List (κ × ν)
  /-- No key stands twice. -/
  nodup_keys : (entries.map Prod.fst).Nodup

namespace Table

variable {κ ν μ : Type}

/-- The table without entries. -/
def empty : Table κ ν := ⟨[], by simp⟩

instance : EmptyCollection (Table κ ν) := ⟨empty⟩

instance : Inhabited (Table κ ν) := ⟨empty⟩

/-- The keys, oldest first. -/
def keys (t : Table κ ν) : List κ := t.entries.map Prod.fst

/-- The values, in the order of their keys. -/
def values (t : Table κ ν) : List ν := t.entries.map Prod.snd

/-- The number of entries. -/
def size (t : Table κ ν) : Nat := t.entries.length

/-- Apply a function to every value. -/
def mapValues (f : ν → μ) (t : Table κ ν) : Table κ μ :=
  ⟨t.entries.map fun e => (e.1, f e.2), by simpa [Function.comp_def] using t.nodup_keys⟩

@[simp] theorem keys_empty : (empty : Table κ ν).keys = [] := rfl

theorem nodup_keys' (t : Table κ ν) : t.keys.Nodup := t.nodup_keys

variable [DecidableEq κ]

/-- The value of the first entry with a key. -/
def lookupEntry (k : κ) : List (κ × ν) → Option ν
  | [] => none
  | e :: es => if e.1 = k then some e.2 else lookupEntry k es

/-- The value stored under a key. -/
def get? (t : Table κ ν) (k : κ) : Option ν := lookupEntry k t.entries

/-- Whether a key is present. -/
def contains (t : Table κ ν) (k : κ) : Bool := (t.get? k).isSome

/-- Write a value into an entry list: over the entry with that key, or at the end. -/
def insertEntry (k : κ) (v : ν) : List (κ × ν) → List (κ × ν)
  | [] => [(k, v)]
  | e :: es => if e.1 = k then (k, v) :: es else e :: insertEntry k v es

/-- An insertion keeps the keys, and appends its own when it is new. -/
theorem map_fst_insertEntry (k : κ) (v : ν) (es : List (κ × ν)) :
    (insertEntry k v es).map Prod.fst =
      if k ∈ es.map Prod.fst then es.map Prod.fst else es.map Prod.fst ++ [k] := by
  induction es with
  | nil => simp [insertEntry]
  | cons e es ih =>
    by_cases h : e.1 = k
    · simp [insertEntry, h]
    · have hk : ¬ k = e.1 := fun he => h he.symm
      simp only [insertEntry, h, if_false, List.map_cons, ih, List.mem_cons, hk, false_or]
      split <;> simp

theorem nodup_map_fst_insertEntry (k : κ) (v : ν) {es : List (κ × ν)}
    (h : (es.map Prod.fst).Nodup) : ((insertEntry k v es).map Prod.fst).Nodup := by
  rw [map_fst_insertEntry]
  split
  · exact h
  · next hk =>
    refine List.nodup_append.2 ⟨h, by simp, ?_⟩
    intro a ha b hb hab
    rw [List.mem_singleton] at hb
    exact hk (hb ▸ hab ▸ ha)

/-- Store a value under a key, in place when the key is present and at the end when it is new. -/
def insert (t : Table κ ν) (k : κ) (v : ν) : Table κ ν :=
  ⟨insertEntry k v t.entries, nodup_map_fst_insertEntry k v t.nodup_keys⟩

/-- Store a value under a key that is not present yet; a present key keeps its value. -/
def insertNew (t : Table κ ν) (k : κ) (v : ν) : Table κ ν :=
  if t.contains k then t else t.insert k v

/-- Store what a function makes of the value under a key, or of nothing when the key is new. -/
def upsert (t : Table κ ν) (k : κ) (f : Option ν → ν) : Table κ ν :=
  t.insert k (f (t.get? k))

/-- Drop a key and its value. -/
def erase (t : Table κ ν) (k : κ) : Table κ ν :=
  ⟨t.entries.filter fun e => e.1 ≠ k,
    (List.filter_sublist.map Prod.fst).nodup t.nodup_keys⟩

/-- The table of a list of entries; a key that comes again keeps its place and takes the later
value. -/
def ofList (es : List (κ × ν)) : Table κ ν :=
  es.foldl (fun t e => t.insert e.1 e.2) empty

/-- How often each member of a list occurs, in the order of first occurrences. -/
def tally (ks : List κ) : Table κ Nat :=
  ks.foldl (fun t k => t.upsert k fun n => n.getD 0 + 1) empty

/-- The values listed for each key, keys in the order of first occurrences. -/
def group (es : List (κ × ν)) : Table κ (List ν) :=
  es.foldl (fun t e => t.upsert e.1 fun vs => vs.getD [] ++ [e.2]) empty

@[simp] theorem get?_empty (k : κ) : (empty : Table κ ν).get? k = none := rfl

theorem keys_insert (t : Table κ ν) (k : κ) (v : ν) :
    (t.insert k v).keys = if k ∈ t.keys then t.keys else t.keys ++ [k] :=
  map_fst_insertEntry k v t.entries

theorem mem_keys_insert {t : Table κ ν} {k j : κ} {v : ν} :
    j ∈ (t.insert k v).keys ↔ j ∈ t.keys ∨ j = k := by
  rw [keys_insert]
  split
  · next h => exact ⟨Or.inl, fun h' => h'.elim id fun e => e ▸ h⟩
  · simp

theorem keys_erase (t : Table κ ν) (k : κ) : (t.erase k).keys = t.keys.filter (· ≠ k) := by
  simp [keys, erase, List.filter_map, Function.comp_def]

theorem lookupEntry_insertEntry (k j : κ) (v : ν) (es : List (κ × ν)) :
    lookupEntry j (insertEntry k v es) = if j = k then some v else lookupEntry j es := by
  induction es with
  | nil => by_cases h : k = j <;> simp [insertEntry, lookupEntry, h, eq_comm]
  | cons e es ih =>
    by_cases h : e.1 = k
    · by_cases hj : k = j
      · simp [insertEntry, lookupEntry, h, hj]
      · have hj' : ¬ j = k := fun he => hj he.symm
        simp [insertEntry, lookupEntry, h, hj, hj']
    · simp only [insertEntry, h, if_false, lookupEntry, ih]
      split
      · next he => simp [← he, h]
      · rfl

theorem get?_insert (t : Table κ ν) (k j : κ) (v : ν) :
    (t.insert k v).get? j = if j = k then some v else t.get? j :=
  lookupEntry_insertEntry k j v t.entries

theorem lookupEntry_filter (k j : κ) (es : List (κ × ν)) :
    lookupEntry j (es.filter fun e => e.1 ≠ k) = if j = k then none else lookupEntry j es := by
  induction es with
  | nil => simp [lookupEntry]
  | cons e es ih =>
    by_cases h : e.1 = k
    · by_cases hj : j = k
      · simpa [lookupEntry, h, hj] using ih
      · have hk : ¬ k = j := fun he => hj he.symm
        simpa [lookupEntry, h, hj, hk] using ih
    · by_cases he : e.1 = j
      · have hj : ¬ j = k := fun hj => h (he.trans hj)
        simp [lookupEntry, he, hj]
      · simpa [lookupEntry, h, he] using ih

theorem get?_erase (t : Table κ ν) (k j : κ) :
    (t.erase k).get? j = if j = k then none else t.get? j :=
  lookupEntry_filter k j t.entries

theorem get?_eq_some_iff {t : Table κ ν} {k : κ} {v : ν} :
    t.get? k = some v ↔ (k, v) ∈ t.entries := by
  obtain ⟨es, hes⟩ := t
  show lookupEntry k es = some v ↔ (k, v) ∈ es
  induction es with
  | nil => simp [lookupEntry]
  | cons e es ih =>
    obtain ⟨k', v'⟩ := e
    simp only [List.map_cons, List.nodup_cons] at hes
    by_cases h : k' = k
    · subst h
      have hnot : (k', v) ∉ es := fun hm => hes.1 (List.mem_map.2 ⟨(k', v), hm, rfl⟩)
      simp [lookupEntry, hnot, eq_comm]
    · have h' : ¬ k = k' := fun he => h he.symm
      simp [lookupEntry, h, h', ih hes.2]

theorem get?_eq_none_iff {t : Table κ ν} {k : κ} : t.get? k = none ↔ k ∉ t.keys := by
  constructor
  · intro h hk
    obtain ⟨⟨k', v⟩, hm, rfl⟩ := List.mem_map.1 hk
    rw [get?_eq_some_iff.2 hm] at h
    cases h
  · intro h
    cases hv : t.get? k with
    | none => rfl
    | some v => exact absurd (List.mem_map.2 ⟨(k, v), get?_eq_some_iff.1 hv, rfl⟩) h

/-- A value that is stored under a new key leaves the others as they are. -/
theorem get?_insert_of_not_mem {t : Table κ ν} {k j : κ} {v w : ν} (fresh : k ∉ t.keys)
    (found : t.get? j = some w) : (t.insert k v).get? j = some w := by
  rw [get?_insert, if_neg]
  · exact found
  · rintro rfl
    rw [get?_eq_none_iff.2 fresh] at found
    cases found

theorem contains_iff {t : Table κ ν} {k : κ} : t.contains k = true ↔ k ∈ t.keys := by
  rw [contains, Option.isSome_iff_ne_none, ne_eq, get?_eq_none_iff, Classical.not_not]

theorem contains_eq_false_iff {t : Table κ ν} {k : κ} : t.contains k = false ↔ k ∉ t.keys := by
  rw [← contains_iff, Bool.not_eq_true]

theorem keys_insertNew (t : Table κ ν) (k : κ) (v : ν) :
    (t.insertNew k v).keys = if k ∈ t.keys then t.keys else t.keys ++ [k] := by
  by_cases h : t.contains k
  · rw [insertNew, if_pos h, if_pos (contains_iff.1 h)]
  · rw [insertNew, if_neg h, keys_insert]

theorem get?_insertNew (t : Table κ ν) (k j : κ) (v : ν) :
    (t.insertNew k v).get? j = if j = k then some ((t.get? k).getD v) else t.get? j := by
  by_cases h : t.contains k
  · rw [insertNew, if_pos h]
    split
    · next hj =>
      obtain ⟨w, hw⟩ := Option.isSome_iff_exists.1 h
      rw [hj, hw, Option.getD_some]
    · rfl
  · have hn : t.get? k = none := by simpa [contains] using h
    rw [insertNew, if_neg h, get?_insert, hn, Option.getD_none]

theorem get?_upsert (t : Table κ ν) (k j : κ) (f : Option ν → ν) :
    (t.upsert k f).get? j = if j = k then some (f (t.get? k)) else t.get? j := get?_insert ..

theorem lookupEntry_map (f : ν → μ) (k : κ) (es : List (κ × ν)) :
    lookupEntry k (es.map fun e => (e.1, f e.2)) = (lookupEntry k es).map f := by
  induction es with
  | nil => rfl
  | cons e es ih =>
    simp only [List.map_cons, lookupEntry, ih]
    split <;> rfl

theorem get?_mapValues (f : ν → μ) (t : Table κ ν) (k : κ) :
    (t.mapValues f).get? k = (t.get? k).map f := lookupEntry_map f k t.entries

theorem get?_foldl_tally (ks : List κ) (t : Table κ Nat) (k : κ) :
    ((ks.foldl (fun t k => t.upsert k fun n => n.getD 0 + 1) t).get? k).getD 0 =
      (t.get? k).getD 0 + ks.count k := by
  induction ks generalizing t with
  | nil => simp
  | cons j ks ih =>
    rw [List.foldl_cons, ih, get?_upsert, List.count_cons]
    by_cases h : j = k
    · simp [h]; omega
    · simp [h, Ne.symm h]

/-- A tally counts every member. -/
theorem get?_tally (ks : List κ) (k : κ) : ((tally ks).get? k).getD 0 = ks.count k := by
  simpa [tally] using get?_foldl_tally ks empty k

theorem get?_foldl_group (es : List (κ × ν)) (t : Table κ (List ν)) (k : κ) :
    ((es.foldl (fun t e => t.upsert e.1 fun vs => vs.getD [] ++ [e.2]) t).get? k).getD [] =
      (t.get? k).getD [] ++ (es.filter fun e => e.1 = k).map Prod.snd := by
  induction es generalizing t with
  | nil => simp
  | cons e es ih =>
    rw [List.foldl_cons, ih, get?_upsert]
    by_cases h : e.1 = k
    · simp [h]
    · simp [h, Ne.symm h]

/-- A group lists the values of a key in their order. -/
theorem get?_group (es : List (κ × ν)) (k : κ) :
    ((group es).get? k).getD [] = (es.filter fun e => e.1 = k).map Prod.snd := by
  simpa [group] using get?_foldl_group es empty k

theorem mem_keys_foldl_group (es : List (κ × ν)) (t : Table κ (List ν)) (k : κ) :
    k ∈ (es.foldl (fun t e => t.upsert e.1 fun vs => vs.getD [] ++ [e.2]) t).keys ↔
      k ∈ t.keys ∨ k ∈ es.map Prod.fst := by
  induction es generalizing t with
  | nil => simp
  | cons e es ih =>
    rw [List.foldl_cons, ih, upsert, mem_keys_insert, List.map_cons, List.mem_cons, or_assoc]

/-- A group has the keys that have values. -/
theorem mem_keys_group {es : List (κ × ν)} {k : κ} : k ∈ (group es).keys ↔ k ∈ es.map Prod.fst := by
  simpa [group] using mem_keys_foldl_group es empty k

/-- A group holds for each of its keys the values of that key, in their order. -/
theorem entries_group (es : List (κ × ν)) :
    (group es).entries =
      (group es).keys.map fun k => (k, (es.filter fun e => e.1 = k).map Prod.snd) := by
  rw [keys, List.map_map]
  refine (List.map_id _).symm.trans (List.map_congr_left fun e he => ?_)
  have found : (group es).get? e.1 = some e.2 := get?_eq_some_iff.2 he
  have listed := get?_group es e.1
  rw [found, Option.getD_some] at listed
  exact Prod.ext rfl listed

end Table

end CodeGraph
