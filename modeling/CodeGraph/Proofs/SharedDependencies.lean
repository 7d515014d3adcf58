import CodeGraph.Proofs.Consistency
import CodeGraph.Proofs.Impact
import CodeGraph.Proofs.ShuffledGraphs

/-!
# Shared dependencies

The packages that are listed as shared are those that enough manifests declare, counted by their
names: a manifest that declares a package several times, to run and for development, is one user,
and so are several manifests of one name. A dependency that goes by the name of a manifest is no
package, whoever declares it.

Main definition:

- `declarers`: the names of the manifests that declare a package.

Main statement:

- `sharedDependencies_exact`: which packages are listed, with which users, in which order.
-/
namespace CodeGraph

/-- The names of the manifests that declare a repository or package, in either way. -/
def declarers (ms : List Manifest) (id : String) : Finset String :=
  (ms.map Manifest.name).toFinset.filter fun repo => Declares ms true repo id

section Shared

variable {ms : List Manifest} {id repo : String} {minCount : Int} {s : SharedDependency}

theorem mem_declarers_iff : repo ∈ declarers ms id ↔ Declares ms true repo id := by
  unfold declarers
  rw [Finset.mem_filter, List.mem_toFinset]
  constructor
  · exact And.right
  · intro declared
    exact ⟨isRepo_portfolioGraph_iff.1 declared.isRepo, declared⟩

/-! ## Users -/

theorem toFinset_usersOf : ((portfolioGraph ms).usersOf id).toFinset = declarers ms id := by
  ext repo
  rw [List.mem_toFinset, mem_usersOf_iff, mem_declarers_iff]

/-- Users are counted once each. -/
theorem length_usersOf : ((portfolioGraph ms).usersOf id).length = (declarers ms id).card := by
  have distinct : ((portfolioGraph ms).usersOf id).Nodup := nodup_eraseDups _
  rw [← toFinset_usersOf, List.toFinset_card_of_nodup distinct]

/-- The users of a node are what its impact lists directly. -/
theorem exists_impact_usersOf (hid : id ∈ (portfolioGraph ms).ids) :
    ∃ i, (portfolioGraph ms).impact id = .ok i ∧ i.direct = (portfolioGraph ms).usersOf id := by
  obtain ⟨deps, run, -⟩ := exists_allDependents hid true
  exact ⟨_, impact_of_allDependents run, rfl⟩

/-! ## Packages -/

/-- The names of the packages in a graph, each once. -/
theorem packages_portfolioGraph :
    (((portfolioGraph ms).nodesOfType NodeType.dependency).map Node.id).Nodup ∧
    ∀ id, id ∈ ((portfolioGraph ms).nodesOfType NodeType.dependency).map Node.id ↔
      id ∉ ms.map Manifest.name ∧ ∃ repo, Declares ms true repo id := by
  obtain ⟨m, indexes, -⟩ := (holds_portfolioGraph ms).indexes
  rw [indexes.map_id_nodesOfType]
  constructor
  · have distinct : (portfolioGraph ms).ids.Nodup := Table.nodup_keys' _
    exact distinct.filter _
  · intro id
    rw [List.mem_filter, isOfType_dependency_iff, mem_ids_portfolioGraph_iff]
    constructor
    · exact And.right
    · rintro ⟨package, declared⟩
      exact ⟨.inr declared, package, declared⟩

/-- The shared dependencies before they are sorted. -/
theorem sharedDependencies_perm (g : Store) (minCount : Int) :
    (g.sharedDependencies minCount).Perm
      ((((g.nodesOfType NodeType.dependency).map Node.id).map fun id =>
        ⟨id, g.usersOf id⟩).filter fun s => minCount ≤ s.count) := by
  rw [List.map_map]
  exact List.mergeSort_perm _ _

theorem mem_sharedDependencies_iff :
    s ∈ (portfolioGraph ms).sharedDependencies minCount ↔
      s.dependency ∉ ms.map Manifest.name ∧ (∃ repo, Declares ms true repo s.dependency) ∧
        s.usedBy = (portfolioGraph ms).usersOf s.dependency ∧
        minCount ≤ (declarers ms s.dependency).card := by
  rw [(sharedDependencies_perm _ _).mem_iff, List.mem_filter, List.mem_map, decide_eq_true_eq]
  constructor
  · rintro ⟨⟨id, package, rfl⟩, enough⟩
    obtain ⟨other, declared⟩ := (packages_portfolioGraph.2 id).1 package
    refine ⟨other, declared, rfl, ?_⟩
    rw [← length_usersOf]
    exact enough
  · rintro ⟨other, declared, users, enough⟩
    refine ⟨⟨s.dependency, (packages_portfolioGraph.2 _).2 ⟨other, declared⟩, ?_⟩, ?_⟩
    · rw [← users]
    · unfold SharedDependency.count
      rw [users, length_usersOf]
      exact enough

theorem nodup_sharedDependencies :
    (((portfolioGraph ms).sharedDependencies minCount).map SharedDependency.dependency).Nodup := by
  have listed := (sharedDependencies_perm (portfolioGraph ms) minCount).map
    SharedDependency.dependency
  rw [listed.nodup_iff]
  apply (List.filter_sublist.map _).nodup
  rw [List.map_map]
  have distinct : (((portfolioGraph ms).nodesOfType NodeType.dependency).map Node.id).Nodup :=
    packages_portfolioGraph.1
  simpa [Function.comp_def] using distinct

/-! ## Order -/

theorem SharedDependency.before_iff {s t : SharedDependency} :
    s.before t = true ↔ t.count < s.count ∨ s.count = t.count ∧ s.dependency ≤ t.dependency := by
  unfold before
  simp

/-- Packages of different names are in a strict order. -/
theorem pairwise_sharedDependencies :
    ((portfolioGraph ms).sharedDependencies minCount).Pairwise fun s t =>
      t.count < s.count ∨ s.count = t.count ∧ s.dependency < t.dependency := by
  have sorted : ((portfolioGraph ms).sharedDependencies minCount).Pairwise fun s t =>
      s.before t = true := by
    apply List.pairwise_mergeSort
    · intro a b c
      exact SharedDependency.pairBefore_trans (a.dependency, a.count) (b.dependency, b.count)
        (c.dependency, c.count)
    · intro a b
      exact SharedDependency.pairBefore_total (a.dependency, a.count) (b.dependency, b.count)
  have distinct : ((portfolioGraph ms).sharedDependencies minCount).Pairwise fun s t =>
      s.dependency ≠ t.dependency := List.pairwise_map.1 nodup_sharedDependencies
  refine sorted.imp₂ ?_ distinct
  intro s t before other
  rcases SharedDependency.before_iff.1 before with more | ⟨even, name⟩
  · exact .inl more
  · right
    refine ⟨even, ?_⟩
    apply String.not_le.1
    intro after
    exact other (String.le_antisymm name after)

/-- The shared dependencies of a portfolio. A name is listed, and then once, exactly when it is
declared, is not the name of a manifest, and is declared by manifests of enough different names. Its
users are these names, each once, which are also the repositories that a change to it affects
directly. More users come first, and of as many the smaller name. -/
theorem sharedDependencies_exact (ms : List Manifest) (minCount : Int) :
    let g := portfolioGraph ms
    let shared := g.sharedDependencies minCount
    (shared.map SharedDependency.dependency).Nodup ∧
    (∀ id, id ∈ shared.map SharedDependency.dependency ↔
      (∃ repo, Declares ms true repo id) ∧ id ∉ ms.map Manifest.name ∧
        minCount ≤ (declarers ms id).card) ∧
    (∀ s ∈ shared, s.usedBy.Nodup ∧ s.usedBy.toFinset = declarers ms s.dependency ∧
      ∃ i, g.impact s.dependency = .ok i ∧ i.direct = s.usedBy) ∧
    shared.Pairwise fun s t =>
      t.count < s.count ∨ s.count = t.count ∧ s.dependency < t.dependency := by
  refine ⟨nodup_sharedDependencies, ?_, ?_, pairwise_sharedDependencies⟩
  · intro id
    rw [List.mem_map]
    constructor
    · rintro ⟨s, listed, rfl⟩
      obtain ⟨other, declared, -, enough⟩ := mem_sharedDependencies_iff.1 listed
      exact ⟨declared, other, enough⟩
    · rintro ⟨declared, other, enough⟩
      refine ⟨⟨id, (portfolioGraph ms).usersOf id⟩, ?_, rfl⟩
      exact mem_sharedDependencies_iff.2 ⟨other, declared, rfl, enough⟩
  · intro s listed
    obtain ⟨other, declared, users, enough⟩ := mem_sharedDependencies_iff.1 listed
    have node : s.dependency ∈ (portfolioGraph ms).ids :=
      mem_ids_portfolioGraph_iff.2 (.inr declared)
    obtain ⟨i, run, direct⟩ := exists_impact_usersOf node
    refine ⟨?_, ?_, i, run, ?_⟩
    · rw [users]
      exact nodup_eraseDups _
    · rw [users, toFinset_usersOf]
    · rw [users, direct]

/-- A repository that declares a package in both ways and needs another repository, which comes in
two manifests, and a third one that needs both. -/
def severalUsers : List Manifest :=
  [⟨"web", [⟨"json", some "1.0"⟩, ⟨"core", none⟩], [⟨"json", none⟩], .null⟩,
    ⟨"core", [⟨"toml", none⟩], [], .null⟩, ⟨"tool", [⟨"core", none⟩], [⟨"toml", none⟩], .null⟩,
    ⟨"core", [⟨"json", none⟩, ⟨"toml", none⟩], [⟨"test", none⟩], .null⟩]

/-- The package has two users, and is listed with them. The repository, which has two users as well,
is not listed, nor is the package with a single user. -/
theorem sharedDependencies_exact_severalUsers :
    (∃ s ∈ (portfolioGraph severalUsers).sharedDependencies 2,
      s.dependency = "json" ∧ s.usedBy.toFinset = {"core", "web"}) ∧
    "core" ∉ ((portfolioGraph severalUsers).sharedDependencies 2).map SharedDependency.dependency ∧
    "test" ∉
      ((portfolioGraph severalUsers).sharedDependencies 2).map SharedDependency.dependency := by
  obtain ⟨-, listed, users, -⟩ := sharedDependencies_exact severalUsers 2
  have declaring : declarers severalUsers "json" = {"core", "web"} := by decide
  refine ⟨?_, ?_, ?_⟩
  · have package := (listed "json").2 ⟨⟨"web", by decide⟩, by decide, by decide⟩
    obtain ⟨s, hs, named⟩ := List.mem_map.1 package
    obtain ⟨-, same, -⟩ := users s hs
    exact ⟨s, hs, named, by rw [same, named, declaring]⟩
  · intro repository
    exact ((listed "core").1 repository).2.1 (by decide)
  · intro package
    exact absurd ((listed "test").1 package).2.2 (by decide)

end Shared

end CodeGraph
