import CodeGraph.Portfolio.Graph
import CodeGraph.Proofs.Results

/-!
# Manifests that are saved

A manifest can be written as a value and read again. A dependency is written by its name alone when
it has no version constraint, and an empty version is no constraint; so what is read has no empty
versions, and is otherwise what was written. A graph does not tell an empty version from a missing
one, so a portfolio has the same graph after it was saved.

Main definitions:

- `Manifest.trimmed`: a manifest without empty versions;
- `Manifest.saved`: what is read of manifests that were written.

Main statements:

- `Dependency.ofValue_toValue`, `Manifest.ofValue_toValue`: what is read of what was written;
- `Manifest.toValue_trimmed`, `portfolioGraph_map_trimmed`: empty versions leave no trace in what is
  written, or in a graph;
- `saved_exact`: a whole portfolio that is saved.
-/
namespace CodeGraph

/-! ## Dependencies -/

namespace Dependency

/-- A dependency whose version is taken away when it is empty. -/
def trimmed (d : Dependency) : Dependency := if d.version = some "" then ⟨d.name, none⟩ else d

/-- What is left is the version constraint. -/
theorem trimmed_eq (d : Dependency) : d.trimmed = ⟨d.name, d.constraint?⟩ := by
  obtain ⟨name, version⟩ := d
  cases version with
  | none => rfl
  | some v =>
    by_cases empty : v = ""
    · rw [empty]
      rfl
    · have constraint : (⟨name, some v⟩ : Dependency).constraint? = some v := by
        simp [constraint?, empty]
      have kept : some v ≠ some "" := by simpa using empty
      rw [constraint, trimmed, if_neg kept]

@[simp] theorem name_trimmed (d : Dependency) : d.trimmed.name = d.name := by rw [trimmed_eq]

@[simp] theorem constraint?_trimmed (d : Dependency) : d.trimmed.constraint? = d.constraint? := by
  simp [trimmed_eq, constraint?]

theorem toValue_trimmed (d : Dependency) : d.trimmed.toValue = d.toValue := by
  unfold toValue
  rw [constraint?_trimmed, name_trimmed]

/-- A constraint is not empty, so it is read as it was written. -/
theorem versionOf_constraint {d : Dependency} {v : String} (h : d.constraint? = some v) :
    versionOf (.text v) = some v := by
  have full : v.isEmpty = false := by simpa using (Option.filter_eq_some_iff.1 h).2
  have present : (Value.text v).isEmptyLike = false := full
  rw [versionOf, present, Value.display_text]
  rfl

/-- A dependency is read as it was written, but for an empty version. -/
theorem ofValue_toValue (d : Dependency) : ofValue d.toValue = .ok d.trimmed := by
  rw [trimmed_eq, toValue]
  cases constraint : d.constraint? with
  | none => rfl
  | some v =>
    have version : (Value.record [("name", .text d.name), ("version", .text v)]).get "version" =
        .ok (.text v) := Value.get_record ..
    have name : (Value.record [("name", .text d.name), ("version", .text v)]).item "name" =
        .ok (.text d.name) := Value.item_record ..
    show (do
      let version ← (Value.record [("name", .text d.name), ("version", .text v)]).get "version"
      let name ← (Value.record [("name", .text d.name), ("version", .text v)]).item "name"
      return (⟨name.display, versionOf version⟩ : Dependency)) = _
    rw [version, name]
    show Except.ok (⟨(Value.text d.name).display, versionOf (.text v)⟩ : Dependency) = _
    rw [versionOf_constraint constraint, Value.display_text]

end Dependency

/-! ## Manifests -/

namespace Manifest

/-- A manifest without empty versions. -/
def trimmed (m : Manifest) : Manifest where
  name := m.name
  dependencies := m.dependencies.map Dependency.trimmed
  devDependencies := m.devDependencies.map Dependency.trimmed
  language := m.language

/-- What is read of manifests that were written. -/
def saved (ms : List Manifest) : Except Fault (List Manifest) := ms.mapM fun m => ofValue m.toValue

/-- Nobody sees by the written form whether a version was empty. -/
theorem toValue_trimmed (m : Manifest) : m.trimmed.toValue = m.toValue := by
  have same (ds : List Dependency) :
      (ds.map Dependency.trimmed).map Dependency.toValue = ds.map Dependency.toValue := by
    rw [List.map_map]
    exact List.map_congr_left fun d _ => d.toValue_trimmed
  simp only [toValue, trimmed, same]

/-- Dependencies are read as they were written, but for empty versions. -/
theorem dependenciesOf_map_toValue (ds : List Dependency) :
    dependenciesOf (.list (ds.map Dependency.toValue)) = .ok (ds.map Dependency.trimmed) := by
  have read : (ds.map Dependency.toValue).mapM Dependency.ofValue =
      .ok (ds.map Dependency.trimmed) := by
    rw [List.mapM_map]
    exact mapM_eq_ok fun d _ => d.ofValue_toValue
  -- no dependencies are written as a list that counts as absent, and stand for none
  cases ds with
  | nil => rfl
  | cons d ds => exact read

/-- A manifest is read as it was written, but for empty versions. -/
theorem ofValue_toValue (m : Manifest) : ofValue m.toValue = .ok m.trimmed := by
  have name : m.toValue.item "name" = .ok (.text m.name) := Value.item_record ..
  have needed : m.toValue.get "dependencies" =
      .ok (.list (m.dependencies.map Dependency.toValue)) := Value.get_record ..
  have dev : m.toValue.get "dev_dependencies" =
      .ok (.list (m.devDependencies.map Dependency.toValue)) := Value.get_record ..
  have language : m.toValue.get "language" = .ok m.language := Value.get_record ..
  simp only [ofValue, name, needed, dev, language, dependenciesOf_map_toValue, bind, Except.bind]
  rw [Value.display_text]
  rfl

theorem saved_eq (ms : List Manifest) : saved ms = .ok (ms.map trimmed) :=
  mapM_eq_ok fun m _ => m.ofValue_toValue

/-- What was read once is read again as it is. -/
theorem saved_map_trimmed (ms : List Manifest) : saved (ms.map trimmed) = .ok (ms.map trimmed) := by
  rw [saved, List.mapM_map]
  apply mapM_eq_ok
  intro m _
  show ofValue m.trimmed.toValue = .ok m.trimmed
  rw [toValue_trimmed, ofValue_toValue]

/-! ## Graphs -/

theorem node_trimmed (m : Manifest) : m.trimmed.node = m.node := rfl

theorem dependencyEdge_trimmed (repo : String) (d : Dependency) (type : String) :
    dependencyEdge repo d.trimmed type = dependencyEdge repo d type := by
  unfold dependencyEdge
  rw [Dependency.constraint?_trimmed, Dependency.name_trimmed]

theorem declared_trimmed (m : Manifest) :
    m.trimmed.declared = m.declared.map fun d => (d.1.trimmed, d.2) := by
  simp [declared, trimmed, Function.comp_def]

end Manifest

namespace Store

/-- Dependencies are added to a graph in the same way without their empty versions. -/
theorem declareFrom_map_trimmed (repo : String) (g : Store) (ds : List (Dependency × String)) :
    declareFrom repo g (ds.map fun d => (d.1.trimmed, d.2)) = declareFrom repo g ds := by
  induction ds generalizing g with
  | nil => rfl
  | cons d ds ih =>
    obtain ⟨d, type⟩ := d
    rw [List.map_cons]
    unfold declareFrom
    simp only [Dependency.name_trimmed, Manifest.dependencyEdge_trimmed, ih]

theorem declare_trimmed (g : Store) (m : Manifest) : g.declare m.trimmed = g.declare m := by
  unfold declare
  rw [Manifest.declared_trimmed, declareFrom_map_trimmed]
  rfl

end Store

/-- A portfolio has the same graph without its empty versions. -/
theorem portfolioGraph_map_trimmed (ms : List Manifest) :
    portfolioGraph (ms.map Manifest.trimmed) = portfolioGraph ms := by
  unfold portfolioGraph
  rw [List.map_map, List.foldl_map]
  simp only [Store.declare_trimmed, Function.comp_def, Manifest.node_trimmed]

/-- Manifests that are written can be read again. Each one comes back as it was, but for versions
that were empty and are now missing. What came back once is written and read without a change, and
the portfolio has the same graph as before. -/
theorem saved_exact (ms : List Manifest) :
    ∃ read, Manifest.saved ms = .ok read ∧ read = ms.map Manifest.trimmed ∧
      Manifest.saved read = .ok read ∧ portfolioGraph read = portfolioGraph ms := by
  refine ⟨ms.map Manifest.trimmed, Manifest.saved_eq ms, rfl, ?_, ?_⟩
  · exact Manifest.saved_map_trimmed ms
  · exact portfolioGraph_map_trimmed ms

end CodeGraph
