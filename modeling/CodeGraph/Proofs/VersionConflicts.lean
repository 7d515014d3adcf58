import CodeGraph.Portfolio.Usage
import CodeGraph.Proofs.Adjacency
import CodeGraph.Proofs.Results

/-!
# Conflicts of versions

Which conflicts the declarations of a portfolio make. The declarations are looked at dependency by
dependency; a dependency is in conflict when the constraints on it that start with a number start
with different ones. The comparison fails only for a number that has too many digits.

Main definitions:

- `Declaration.major?`: the major version that a declaration asks for;
- `majorsOf`: the major versions that declarations ask for of a dependency, in order.

Main statements:

- `Store.isOk_versionConflicts_iff`, `Store.exists_versionConflicts`: when conflicts can be told,
  and what they are.
-/
namespace CodeGraph

/-! ## Major versions -/

/-- The major version that a declaration asks for, if it can be told. -/
def Declaration.major? (d : Declaration) : Option Nat :=
  match Version.major? d.version with
  | .ok major => major
  | .error _ => none

/-- The different major versions that declarations ask for of a dependency, in order. -/
def majorsOf (ds : List (String × Declaration)) (dependency : String) : List Nat :=
  (((ds.filter fun d => d.1 = dependency).map Prod.snd).filterMap
    Declaration.major?).eraseDups.mergeSort

/-- The version of a declaration can be looked at. -/
def Declaration.Readable (d : Declaration) : Prop := (Version.major? d.version).isOk = true

instance (d : Declaration) : Decidable d.Readable :=
  inferInstanceAs (Decidable ((Version.major? d.version).isOk = true))

theorem Declaration.Readable.major?_eq {d : Declaration} (h : d.Readable) :
    Version.major? d.version = .ok d.major? := by
  rw [Declaration.major?]
  cases parsed : Version.major? d.version with
  | ok major => rfl
  | error f =>
    rw [Readable, parsed] at h
    cases h

namespace Store

theorem comparable_parts (ds : List Declaration) :
    comparable ds = (ds.mapM fun d => (Version.major? d.version).map fun major =>
      major.map fun n => (d, n)).map (·.filterMap id) := rfl

/-- Declarations can be compared when the version of each can be looked at. -/
theorem isOk_comparable_iff {ds : List Declaration} :
    (comparable ds).isOk = true ↔ ∀ d ∈ ds, d.Readable := by
  rw [comparable_parts, isOk_map, isOk_mapM_iff]
  exact forall₂_congr fun d _ => by rw [isOk_map, Declaration.Readable]

theorem comparable_eq {ds : List Declaration} (readable : ∀ d ∈ ds, d.Readable) :
    comparable ds = .ok (ds.filterMap fun d => d.major?.map fun n => (d, n)) := by
  have each : ∀ d ∈ ds, (Version.major? d.version).map (fun major => major.map fun n => (d, n)) =
      .ok (d.major?.map fun n => (d, n)) := fun d hd => by
    rw [(readable d hd).major?_eq]
    rfl
  rw [comparable_parts, mapM_eq_ok each]
  exact congrArg Except.ok List.filterMap_map

/-- The conflict on a dependency for declarations with their major versions, if these differ. -/
def conflict? (dependency : String) (pairs : List (Declaration × Nat)) : Option VersionConflict :=
  let majors := (pairs.map (·.2)).eraseDups.mergeSort
  if 1 < majors.length then some ⟨dependency, pairs.map (·.1), majors⟩ else none

variable {g : Store}

theorem versionConflicts_parts (g : Store) :
    g.versionConflicts = (g.dependencyVersions.mapM fun v =>
      (comparable v.declarations).map (conflict? v.dependency)).map (·.filterMap id) := rfl

/-- The constraints on the dependencies are those that the declarations put on them. -/
theorem dependencyVersions_eq (g : Store) :
    g.dependencyVersions = (Table.group g.declarations).keys.map fun dependency =>
      ⟨dependency, (g.declarations.filter fun d => d.1 = dependency).map Prod.snd⟩ := by
  rw [dependencyVersions, Table.entries_group, List.map_map]
  rfl

theorem forall_dependencyVersions_iff {p : Declaration → Prop} :
    (∀ v ∈ g.dependencyVersions, ∀ d ∈ v.declarations, p d) ↔ ∀ d ∈ g.declarations, p d.2 := by
  rw [dependencyVersions_eq, List.forall_mem_map]
  constructor
  · intro h d hd
    refine h d.1 (Table.mem_keys_group.2 (List.mem_map_of_mem hd)) d.2 ?_
    exact List.mem_map_of_mem (List.mem_filter.2 ⟨hd, decide_eq_true rfl⟩)
  · intro h dependency _ d hd
    obtain ⟨e, he, rfl⟩ := List.mem_map.1 hd
    exact h e (List.mem_of_mem_filter he)

/-- Conflicts can be told when the version of each declaration can be looked at. -/
theorem isOk_versionConflicts_iff :
    g.versionConflicts.isOk = true ↔ ∀ d ∈ g.declarations, d.2.Readable := by
  rw [versionConflicts_parts, isOk_map, isOk_mapM_iff, ← forall_dependencyVersions_iff]
  exact forall₂_congr fun v _ => by rw [isOk_map, isOk_comparable_iff]

theorem readable_of_versionConflicts_eq_ok {found : List VersionConflict}
    (told : g.versionConflicts = .ok found) : ∀ d ∈ g.declarations, d.2.Readable := by
  apply isOk_versionConflicts_iff.1
  rw [told]
  rfl

theorem versionConflicts_eq (readable : ∀ d ∈ g.declarations, d.2.Readable) :
    g.versionConflicts = .ok (g.dependencyVersions.filterMap fun v =>
      conflict? v.dependency (v.declarations.filterMap fun d =>
        d.major?.map fun n => (d, n))) := by
  have each : ∀ v ∈ g.dependencyVersions,
      (comparable v.declarations).map (conflict? v.dependency) =
        .ok (conflict? v.dependency (v.declarations.filterMap fun d =>
          d.major?.map fun n => (d, n))) := fun v hv => by
    rw [comparable_eq (forall_dependencyVersions_iff.2 readable v hv)]
    rfl
  rw [versionConflicts_parts, mapM_eq_ok each]
  exact congrArg Except.ok List.filterMap_map

/-- A dependency is in conflict when declarations ask for several major versions of it. -/
theorem exists_versionConflicts (readable : ∀ d ∈ g.declarations, d.2.Readable) :
    ∃ found, g.versionConflicts = .ok found ∧
      found.map (fun c => (c.dependency, c.majors)) =
        ((Table.group g.declarations).keys.map fun dependency =>
          (dependency, majorsOf g.declarations dependency)).filter fun c => 1 < c.2.length := by
  have told (dependency : String) (ds : List Declaration) :
      (conflict? dependency (ds.filterMap fun d => d.major?.map fun n => (d, n))).map
          (fun c => (c.dependency, c.majors)) =
        (some (dependency, (ds.filterMap Declaration.major?).eraseDups.mergeSort)).filter
          fun c => 1 < c.2.length := by
    have majors : (ds.filterMap fun d => d.major?.map fun n => (d, n)).map (·.2) =
        ds.filterMap Declaration.major? := by
      simp [List.map_filterMap, Function.comp_def]
    rw [conflict?, majors, Option.filter_some]
    simp only [decide_eq_true_eq]
    split <;> rfl
  refine ⟨_, versionConflicts_eq readable, ?_⟩
  rw [List.map_filterMap, dependencyVersions_eq, List.filterMap_map, ← List.filterMap_eq_filter,
    List.filterMap_map]
  refine List.filterMap_congr fun dependency _ => ?_
  exact told dependency _

end Store

end CodeGraph
