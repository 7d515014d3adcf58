import CodeGraph.Manifest.PackageJson
import CodeGraph.Manifest.Pyproject
import CodeGraph.Proofs.Results

/-!
# The shape of manifests

Which documents a manifest can be taken from. The readers of `package.json` and `pyproject.toml`
walk through their documents without a look ahead, so they fail exactly when a value on their way is
not of the kind that they ask for, or when a number that they show has too many digits.

Main definitions:

- `PackageJson.WellShaped`, `Pyproject.WellShaped`, `Pyproject.Named`: what a document must look
  like.

Main statements:

- `PackageJson.isOk_manifest_iff`, `Pyproject.isOk_manifest_iff`, `Pyproject.isOk_projectName_iff`.
-/
namespace CodeGraph

namespace Value

/-- A value is a table: it maps keys to values. -/
def IsTable (v : Value) : Prop := ∃ entries, v = .object entries

/-- The value of an object under a key, or a default where there is none. -/
def under (v : Value) (key : String) (default : Value) : Value := (v.field? key).getD default

/-- A value is a list of texts, or something else whose members are texts. -/
def ListsTexts (v : Value) : Prop :=
  ∃ members, v.elements = .ok members ∧ ∀ m ∈ members, ∃ s, m = .text s

/-- A value can be shown: it counts as absent, or holds no number with too many digits. -/
def Showable (v : Value) : Prop := v.isEmptyLike = true ∨ v.holdsLongNumber = false

variable {v w default : Value} {key : String}

theorem getD_eq_ok_iff : v.getD key default = .ok w ↔ v.IsTable ∧ v.under key default = w := by
  cases v <;> simp [getD, IsTable, under, field?]

theorem get_eq_ok_iff : v.get key = .ok w ↔ v.IsTable ∧ v.under key .null = w := by
  cases v <;> simp [get, IsTable, under, field?]

theorem isOk_entries_iff : v.entries.isOk = true ↔ v.IsTable := by
  cases v <;> simp [entries, IsTable, Except.isOk, Except.toBool]

theorem fields_eq_ok_iff {vs : List Value} :
    v.fields = .ok vs ↔ ∃ es, v = .object es ∧ es.map Prod.snd = vs := by
  cases v <;> simp [fields]

theorem isOk_shown_iff : v.shown.isOk = true ↔ v.holdsLongNumber = false := by
  rw [shown]
  cases v.holdsLongNumber <;> simp [Except.isOk, Except.toBool]

end Value

/-! ## Packages -/

namespace PackageJson

/-- The value under a key of a package is a table or counts as absent. -/
def TableUnder (v : Value) (key : String) : Prop :=
  (v.under key .null).isEmptyLike = true ∨ (v.under key .null).IsTable

/-- What a package must look like. -/
structure WellShaped (v : Value) : Prop where
  table : v.IsTable
  dependencies : TableUnder v "dependencies"
  devDependencies : TableUnder v "devDependencies"

theorem isOk_dependenciesUnder_iff {key : String} {v : Value} :
    (dependenciesUnder key v).isOk = true ↔ v.IsTable ∧ TableUnder v key := by
  have entries (w : Value) : (w.orElse (.object [])).entries.isOk = true ↔
      w.isEmptyLike = true ∨ w.IsTable := by
    rw [Value.isOk_entries_iff, Value.orElse]
    split
    · next absent => simp [absent, Value.IsTable]
    · next present => simp [present]
  have parts : dependenciesUnder key v = v.get key >>= fun table =>
      (table.orElse (.object [])).entries.map fun es =>
        es.map fun e => ⟨e.1.toValue.display, Dependency.versionOf e.2⟩ := rfl
  rw [parts, isOk_bind_iff]
  simp only [isOk_map, entries, Value.get_eq_ok_iff, TableUnder]
  constructor
  · rintro ⟨-, ⟨table, rfl⟩, shape⟩
    exact ⟨table, shape⟩
  · rintro ⟨table, shape⟩
    exact ⟨_, ⟨table, rfl⟩, shape⟩

/-- A manifest can be taken from a package exactly when both kinds of dependencies are given as
tables, or not at all. -/
theorem isOk_manifest_iff {directory : String} {v : Value} :
    (manifest directory v).isOk = true ↔ WellShaped v := by
  simp only [manifest, isOk_bind_iff, isOk_pure, exists_and_right, ← isOk_iff_exists, and_true,
    isOk_dependenciesUnder_iff]
  constructor
  · rintro ⟨-, ⟨table, needed⟩, -, dev⟩
    exact ⟨table, needed, dev⟩
  · rintro ⟨table, needed, dev⟩
    exact ⟨isOk_iff_exists.2 ⟨_, Value.get_eq_ok_iff.2 ⟨table, rfl⟩⟩, ⟨table, needed⟩, table, dev⟩

end PackageJson

/-! ## Projects -/

namespace Pyproject

variable {v document : Value}

/-- The table `project` of a document. -/
def projectOf (document : Value) : Value := document.under "project" noTable

/-- The table of Poetry in a document. -/
def poetryOf (document : Value) : Value := (document.under "tool" noTable).under "poetry" noTable

/-- The value that names a project: from the table `project`, or else from Poetry. -/
def chosenName (project poetry : Value) : Value :=
  if (project.under "name" .null).isEmptyLike then poetry.under "name" .null
  else project.under "name" .null

/-- A value is a table of dependencies whose versions can be shown. The interpreter does not
count. -/
def ListsVersions (v : Value) : Prop :=
  ∃ entries, v = .object entries ∧
    ∀ e ∈ entries, e.1 ≠ .text "python" → (poetryVersion e.2).Showable

/-- What the document of a project must look like. -/
structure WellShaped (document : Value) : Prop where
  table : document.IsTable
  project : (projectOf document).IsTable
  tool : (document.under "tool" noTable).IsTable
  poetry : (poetryOf document).IsTable
  name : (chosenName (projectOf document) (poetryOf document)).Showable
  dependencies : ((projectOf document).under "dependencies" (.list [])).ListsTexts
  extras : ∃ entries, (projectOf document).under "optional-dependencies" noTable =
    .object entries ∧ ∀ e ∈ entries, e.2.ListsTexts
  poetryDependencies : ListsVersions ((poetryOf document).under "dependencies" noTable)
  poetryDev : ListsVersions ((poetryOf document).under "dev-dependencies" noTable)
  groups : ∃ entries, (poetryOf document).under "group" noTable = .object entries ∧
    ∀ e ∈ entries, e.2.IsTable ∧ ListsVersions (e.2.under "dependencies" noTable)

/-- What a document must look like that gives no more than the name of a project. -/
structure Named (document : Value) : Prop where
  table : document.IsTable
  project : (projectOf document).IsTable
  name : ((projectOf document).under "name" .null).Showable

theorem isOk_requirements_iff : (requirements v).isOk = true ↔ v.ListsTexts := by
  simp only [requirements, isOk_bind_iff, isOk_pure, ← isOk_iff_exists, and_true, isOk_mapM_iff,
    Value.ListsTexts]
  refine exists_congr fun members => and_congr_right fun _ => forall₂_congr fun m _ => ?_
  cases m <;> simp [Except.isOk, Except.toBool]

theorem isOk_versionShown_iff : (versionShown v).isOk = true ↔ v.Showable := by
  rw [versionShown, Value.Showable]
  split
  · next absent => simp [absent, Except.isOk, Except.toBool]
  · next present => rw [isOk_map, Value.isOk_shown_iff, or_iff_right present]

theorem isOk_poetryDependencies_iff :
    (poetryDependencies v).isOk = true ↔ ListsVersions v := by
  simp only [poetryDependencies, isOk_bind_iff, isOk_pure, ← isOk_iff_exists, and_true,
    isOk_mapM_iff, isOk_versionShown_iff, ListsVersions]
  cases v with
  | object entries => simp [Value.entries]
  | _ => simp [Value.entries]

theorem isOk_nameOf_iff {directory : String} {project poetry : Value} (table : project.IsTable)
    (table' : poetry.IsTable) :
    (nameOf directory project poetry).isOk = true ↔ (chosenName project poetry).Showable := by
  simp only [nameOf, isOk_bind_iff, Value.get_eq_ok_iff, table, true_and, exists_eq_left',
    chosenName, Value.Showable]
  split
  · simp only [isOk_bind_iff, Value.get_eq_ok_iff, table', true_and, exists_eq_left']
    split
    · next absent => simp [absent, isOk_pure]
    · next present => rw [Value.isOk_shown_iff, or_iff_right present]
  · next present => rw [Value.isOk_shown_iff, or_iff_right present]

theorem isOk_collect_iff {read : Value → Except Fault (List Dependency)} {vs : List Value} :
    (collect read vs).isOk = true ↔ ∀ v ∈ vs, (read v).isOk = true := by
  simp only [collect, isOk_bind_iff, isOk_pure, and_true, ← isOk_iff_exists, isOk_mapM_iff]

/-- A manifest can be taken from the document of a project exactly when it has the right shape. -/
theorem isOk_manifest_iff {directory : String} :
    (manifest directory document).isOk = true ↔ WellShaped document := by
  simp only [manifest, isOk_bind_iff, isOk_pure, exists_and_right, ← isOk_iff_exists, and_true,
    Value.getD_eq_ok_iff, and_assoc, exists_and_left, exists_eq_left', isOk_requirements_iff,
    isOk_poetryDependencies_iff, isOk_collect_iff, Value.fields_eq_ok_iff]
  constructor
  · rintro ⟨table, -, tool, name, project, needed, -, _, ⟨extras, given, rfl⟩, texts, poetry,
      runtime, -, dev, -, _, ⟨groups, given', rfl⟩, versions⟩
    exact ⟨table, project, tool, poetry, (isOk_nameOf_iff project poetry).1 name, needed,
      ⟨extras, given, List.forall_mem_map.1 texts⟩, runtime, dev,
      groups, given', List.forall_mem_map.1 versions⟩
  · rintro ⟨table, project, tool, poetry, name, needed, ⟨extras, given, texts⟩, runtime, dev,
      groups, given', versions⟩
    exact ⟨table, table, tool, (isOk_nameOf_iff project poetry).2 name, project, needed, project, _,
      ⟨extras, given, rfl⟩, List.forall_mem_map.2 texts, poetry, runtime, poetry, dev, poetry, _,
      ⟨groups, given', rfl⟩, List.forall_mem_map.2 versions⟩

/-- A document gives the name of a project exactly when it has the right shape for that. -/
theorem isOk_projectName_iff : (projectName document).isOk = true ↔ Named document := by
  simp only [projectName, isOk_bind_iff, Value.getD_eq_ok_iff, Value.get_eq_ok_iff, and_assoc,
    exists_and_left, exists_eq_left']
  have shown (v : Value) : (if v.isEmptyLike then pure none else v.shown.map some :
      Except Fault (Option String)).isOk = true ↔ v.Showable := isOk_versionShown_iff
  rw [shown]
  exact ⟨fun ⟨table, project, name⟩ => ⟨table, project, name⟩,
    fun ⟨table, project, name⟩ => ⟨table, project, name⟩⟩

end Pyproject

end CodeGraph
